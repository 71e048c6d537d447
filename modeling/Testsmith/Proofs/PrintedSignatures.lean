import Testsmith.Proofs.Balance

/-!
# Printed signatures

A signature as it is printed: parameters with a name, a type and perhaps a default value, blanks around
each piece, a trailing comma, a return type and a body. Types and default values may be any balanced
texts. Three scanners read it, each with an idea of nesting of its own, and they cut it at the same
places, so that `signature_of_printed` gets back what was printed.
-/

namespace Testsmith.Signature

open Text

/-! ## Pieces -/

/-- A run of blanks, which may be empty. -/
structure Gap where
  text : List Char
  all_blank : text.all isBlank = true

theorem Gap.blank (g : Gap) : ∀ c ∈ g.text, isBlank c = true := List.all_eq_true.1 g.all_blank

theorem all_isBlank_nil : ([] : List Char).all isBlank = true := rfl

theorem all_isBlank_space : [' '].all isBlank = true := by decide

theorem all_isBlank_newline : ['\n'].all isBlank = true := by decide

namespace Gap

/-- No blank at all. -/
def empty : Gap := ⟨[], all_isBlank_nil⟩

def space : Gap := ⟨[' '], all_isBlank_space⟩

def newline : Gap := ⟨['\n'], all_isBlank_newline⟩

@[simp] theorem text_empty : empty.text = [] := rfl

@[simp] theorem text_space : space.text = [' '] := rfl

@[simp] theorem text_newline : newline.text = ['\n'] := rfl

theorem space_ne : space.text ≠ [] := List.cons_ne_nil ' ' []

end Gap

/-- The characters that separate where they stand outside all brackets. -/
def isSeparator (c : Char) : Bool := c = ',' || c = '='

/-- The characters that the name of a parameter cannot hold. -/
def isMark (c : Char) : Bool := isBracket c || isSeparator c || c = ':'

/-- The name of a parameter as it is printed. -/
structure PrintedName where
  text : List Char
  tight : Tight text
  no_mark : ∀ c ∈ text, isMark c = false

/-- A type as it is printed: outside its brackets there is no separator. -/
structure PrintedType where
  text : List Char
  tight : Tight text
  part : IsPart isSeparator text

/-- A default value as it is printed: outside its brackets there is no comma. -/
structure PrintedDefault where
  text : List Char
  part : IsPart (· = ',') text

/-- A parameter as it is printed. -/
structure PrintedParameter where
  before : Gap
  name : PrintedName
  beforeColon : Gap
  afterColon : Gap
  type : PrintedType
  after : Gap
  default : Option PrintedDefault

/-- The rest of a signature from its body on. -/
structure PrintedBody where
  mark : Char
  is_mark : mark = '\x7b' ∨ mark = '='
  rest : List Char

/-- A return type as it is printed, with what follows it. -/
structure PrintedReturn where
  beforeColon : Gap
  afterColon : Gap
  type : List Char
  tight : Tight type
  no_body : ∀ c ∈ type, c ≠ '\x7b' ∧ c ≠ '='
  after : Gap
  body : Option PrintedBody

/-- A signature as it is printed. Blank parts may stand at the end of the parameter list, of which the
first one makes the comma in front of it a trailing one. -/
structure PrintedSignature where
  parameters : List PrintedParameter
  blanks : List Gap
  returned : Option PrintedReturn

/-! ## Texts -/

def defaultText : Option PrintedDefault → List Char
  | some value => '=' :: value.text
  | none => []

def bodyText : Option PrintedBody → List Char
  | some body => body.mark :: body.rest
  | none => []

namespace PrintedParameter

variable (p : PrintedParameter)

/-- What follows the colon. -/
def typed : List Char :=
  p.afterColon.text ++ (p.type.text ++ (p.after.text ++ defaultText p.default))

def text : List Char :=
  p.before.text ++ (p.name.text ++ (p.beforeColon.text ++ ':' :: p.typed))

/-- What is to be read of the parameter. -/
def parameter : Parameter := ⟨String.ofList p.name.text, String.ofList p.type.text⟩

end PrintedParameter

/-- What follows the colon of a return type. -/
def PrintedReturn.typed (r : PrintedReturn) : List Char :=
  r.afterColon.text ++ (r.type ++ (r.after.text ++ bodyText r.body))

/-- The parts of a parameter list. -/
def listParts (ps : List PrintedParameter) (blanks : List Gap) : List (List Char) :=
  ps.map PrintedParameter.text ++ blanks.map Gap.text

/-- The text between the brackets of a parameter list. -/
def insideText (ps : List PrintedParameter) (blanks : List Gap) : List Char :=
  List.intercalate [','] (listParts ps blanks)

namespace PrintedSignature

variable (s : PrintedSignature)

/-- What follows the parameter list. -/
def behind : List Char :=
  match s.returned with
  | some r => r.beforeColon.text ++ ':' :: r.typed
  | none => []

def text : List Char := '(' :: (insideText s.parameters s.blanks ++ ')' :: s.behind)

/-- The return type that is to be read. -/
def returnType : String :=
  match s.returned with
  | some r => String.ofList r.type
  | none => unitType

end PrintedSignature

/-! ## Parts -/

section Parts

variable {isSep : Char → Bool} {x y : List Char}

theorem IsPart.append (hx : IsPart isSep x) (hy : IsPart isSep y) : IsPart isSep (x ++ y) := by
  refine ⟨hx.balanced.append hy.balanced, fun c hc => ?_⟩
  rw [hx.balanced.outside_append hy.balanced, List.mem_append] at hc
  exact hc.elim (hx.no_sep c) (hy.no_sep c)

theorem IsPart.group {opener closer : Char} (hbracket : (opener, closer) ∈ brackets)
    (h : Balanced x) (harrow : closer = '>' → x.getLast? ≠ some '-')
    (hsep : isSep closer = false) :
    IsPart isSep (opener :: (x ++ [closer])) := by
  refine ⟨h.group hbracket harrow, fun c hc => ?_⟩
  rw [h.outside_group hbracket harrow, List.mem_singleton] at hc
  rwa [hc]

theorem isPart_of_not_bracket (hbracket : ∀ c ∈ x, isBracket c = false)
    (hsep : ∀ c ∈ x, isSep c = false) : IsPart isSep x :=
  ⟨balanced_of_not_bracket hbracket, fun c hc => hsep c (mem_of_mem_outsideFrom hc)⟩

theorem IsPart.mono {isSep' : Char → Bool} (h : IsPart isSep x)
    (hsep : ∀ c, isSep' c = true → isSep c = true) : IsPart isSep' x := by
  refine ⟨h.balanced, fun c hc => ?_⟩
  cases hc' : isSep' c with
  | false => rfl
  | true => rw [← h.no_sep c hc, hsep c hc']

/-- What stands in front of the first separator outside all brackets. -/
theorem IsPart.beforeTopLevel_append {sep : Char} (h : IsPart isSep x) (hsep : isSep sep = true)
    (hbracket : isBracket sep = false) (rest : List Char) :
    beforeTopLevel isSep (x ++ sep :: rest) = x := by
  rw [beforeTopLevel, splitTopLevel, h.splitFrom_append, splitFrom_sep hsep hbracket,
    foldr_consFirst, List.append_nil]
  rfl

theorem IsPart.beforeTopLevel_eq (h : IsPart isSep x) : beforeTopLevel isSep x = x := by
  have hx := h.splitFrom_append none []
  rw [List.append_nil, splitFrom, foldr_consFirst, List.append_nil] at hx
  rw [beforeTopLevel, splitTopLevel, hx]
  rfl

/-- Blanks are no brackets and no separators. -/
theorem isMark_of_isBlank {c : Char} (h : isBlank c = true) : isMark c = false :=
  not_blank_of_codes (by decide) h

theorem isPart_of_not_mark (hx : ∀ c ∈ x, isMark c = false) : IsPart isSeparator x := by
  simp only [isMark, Bool.or_eq_false_iff] at hx
  exact isPart_of_not_bracket (fun c hc => (hx c hc).1.1) fun c hc => (hx c hc).1.2

theorem Gap.isPart (g : Gap) : IsPart isSeparator g.text :=
  isPart_of_not_mark fun c hc => isMark_of_isBlank (g.blank c hc)

theorem isSeparator_of_comma {c : Char} (h : decide (c = ',') = true) : isSeparator c = true := by
  simp [isSeparator, of_decide_eq_true h]

theorem isSeparator_of_equals {c : Char} (h : decide (c = '=') = true) : isSeparator c = true := by
  simp [isSeparator, of_decide_eq_true h]

end Parts

/-! ## Reading parameters -/

namespace PrintedParameter

variable (p : PrintedParameter)

/-- The part in front of a default value. -/
theorem isPart_front :
    IsPart isSeparator (p.afterColon.text ++ (p.type.text ++ p.after.text)) :=
  p.afterColon.isPart.append (p.type.part.append p.after.isPart)

theorem isPart_text : IsPart (· = ',') p.text := by
  have hdefault : IsPart (· = ',') (defaultText p.default) := by
    cases p.default with
    | none => exact isPart_of_not_bracket (by simp [defaultText]) (by simp [defaultText])
    | some value =>
      have hmark : IsPart (· = ',') ['='] := isPart_of_not_bracket (by decide) (by decide)
      exact hmark.append value.part
  have hcolon : IsPart (· = ',') [':'] := isPart_of_not_bracket (by decide) (by decide)
  have hname := (isPart_of_not_mark p.name.no_mark).mono fun _ => isSeparator_of_comma
  have hfront := p.isPart_front.mono fun _ => isSeparator_of_comma
  have htyped : IsPart (· = ',') p.typed := by
    have h := hfront.append hdefault
    rwa [List.append_assoc, List.append_assoc] at h
  have hgaps := fun g : Gap => g.isPart.mono fun _ => isSeparator_of_comma
  exact (hgaps p.before).append (hname.append ((hgaps p.beforeColon).append (hcolon.append htyped)))

/-- The parameter without the blanks around it. -/
def core : List Char := p.name.text ++ (p.beforeColon.text ++ ':' :: trimEnd p.typed)

theorem trim_text : trim p.text = p.core := by
  rw [trim, text, trimStart_append p.before.blank, trimStart_of_head (p.name.tight.head_append _),
    ← List.append_assoc, trimEnd_append_cons (by decide), List.append_assoc]
  rfl

theorem core_ne_nil : p.core ≠ [] := by
  simp [core]

/-- The type is what stands in front of a default value. -/
theorem trim_beforeTopLevel_typed :
    trim (beforeTopLevel (· = '=') (trimEnd p.typed)) = p.type.text := by
  have hgap := p.afterColon.isPart.mono fun _ => isSeparator_of_equals
  have htype := p.type.part.mono fun _ => isSeparator_of_equals
  have hfront := p.isPart_front.mono fun _ => isSeparator_of_equals
  have htrim := p.type.tight.trim_eq p.afterColon.text p.after.text p.afterColon.blank p.after.blank
  unfold typed
  cases p.default with
  | none =>
    rw [defaultText, List.append_nil, ← List.append_assoc,
      trimEnd_append (p.type.tight.last_append _) p.after.blank, (hgap.append htype).beforeTopLevel_eq]
    have htight := p.type.tight.trim_eq p.afterColon.text [] p.afterColon.blank (by simp)
    rwa [List.append_nil] at htight
  | some value =>
    have hassoc : p.afterColon.text ++ (p.type.text ++ (p.after.text ++ '=' :: value.text)) =
        (p.afterColon.text ++ (p.type.text ++ p.after.text)) ++ '=' :: value.text := by simp
    rw [defaultText, hassoc, trimEnd_append_cons (by decide),
      hfront.beforeTopLevel_append (by decide) (by decide), htrim]

theorem cutAt_core : cutAt ':' p.core = (p.name.text ++ p.beforeColon.text, trimEnd p.typed) := by
  have hfront : ':' ∉ p.name.text ++ p.beforeColon.text := by
    intro hmem
    rcases List.mem_append.1 hmem with hmem | hmem
    · exact absurd (p.name.no_mark ':' hmem) (by decide)
    · exact not_mem_of_class p.beforeColon.blank (by decide) hmem
  rw [core, ← List.append_assoc, cutAt_append hfront]

theorem parameterOf_core (defaultName : String) : parameterOf defaultName p.core = p.parameter := by
  have hname : trim (p.name.text ++ p.beforeColon.text) = p.name.text :=
    p.name.tight.trim_eq [] _ (by simp) p.beforeColon.blank
  rw [parameterOf, cutAt_core]
  simp only [hname, p.trim_beforeTopLevel_typed, orElse, if_neg p.name.tight.ne_nil,
    if_neg p.type.tight.ne_nil, parameter]

end PrintedParameter

theorem Gap.trim_text (g : Gap) : trim g.text = [] := trim_eq_nil_iff.2 g.blank

/-! ## Reading return types -/

theorem beforeBody_eq {x : List Char} (h : ∀ c ∈ x, c ≠ '\x7b' ∧ c ≠ '=') : beforeBody x = x := by
  have hbrace : ∀ c ∈ x, (c != '\x7b') = true := fun c hc => by simpa using (h c hc).1
  have hequals : ∀ c ∈ x, (c != '=') = true := fun c hc => by simpa using (h c hc).2
  rw [beforeBody, List.takeWhile_eq_self_iff.2 hbrace, List.takeWhile_eq_self_iff.2 hequals]

theorem beforeBody_append {x : List Char} (h : ∀ c ∈ x, c ≠ '\x7b' ∧ c ≠ '=') {mark : Char}
    (hmark : mark = '\x7b' ∨ mark = '=') (rest : List Char) : beforeBody (x ++ mark :: rest) = x := by
  have hbrace : ∀ c ∈ x, (c != '\x7b') = true := fun c hc => by simpa using (h c hc).1
  have hequals : ∀ c ∈ x, (c != '=') = true := fun c hc => by simpa using (h c hc).2
  have hstop : ∀ {p : Char → Bool} {y : List Char}, p mark = false →
      ∀ c, (mark :: y).head? = some c → p c = false := by
    rintro p y hp c ⟨⟩
    exact hp
  rw [beforeBody]
  rcases hmark with rfl | rfl
  · rw [takeWhile_append hbrace (hstop (by decide)), List.takeWhile_eq_self_iff.2 hequals]
  · rw [takeWhile_append_cons hbrace (by decide), takeWhile_append hequals (hstop (by decide))]

/-- What follows the colon of a return type is read as the type. -/
theorem PrintedReturn.trim_beforeBody_typed (r : PrintedReturn) :
    trim (beforeBody (trimEnd r.typed)) = r.type := by
  have hgap : ∀ g : Gap, ∀ c ∈ g.text, c ≠ '\x7b' ∧ c ≠ '=' := fun g c hc =>
    ⟨ne_of_mem_of_not_mem hc (not_mem_of_class g.blank (by decide)),
      ne_of_mem_of_not_mem hc (not_mem_of_class g.blank (by decide))⟩
  have htype : ∀ c ∈ r.afterColon.text ++ r.type, c ≠ '\x7b' ∧ c ≠ '=' := fun c hc =>
    (List.mem_append.1 hc).elim (hgap r.afterColon c) (r.no_body c)
  have hfront : ∀ c ∈ r.afterColon.text ++ (r.type ++ r.after.text), c ≠ '\x7b' ∧ c ≠ '=' := by
    intro c hc
    rw [← List.append_assoc] at hc
    exact (List.mem_append.1 hc).elim (htype c) (hgap r.after c)
  unfold typed
  cases r.body with
  | none =>
    rw [bodyText, List.append_nil, ← List.append_assoc,
      trimEnd_append (r.tight.last_append _) r.after.blank, beforeBody_eq htype]
    have htight := r.tight.trim_eq r.afterColon.text [] r.afterColon.blank (by simp)
    rwa [List.append_nil] at htight
  | some body =>
    have hmark : isBlank body.mark = false := by
      rcases body.is_mark with h | h <;> rw [h] <;> decide
    have hassoc : r.afterColon.text ++ (r.type ++ (r.after.text ++ body.mark :: body.rest)) =
        (r.afterColon.text ++ (r.type ++ r.after.text)) ++ body.mark :: body.rest := by simp
    rw [bodyText, hassoc, trimEnd_append_cons hmark, beforeBody_append hfront body.is_mark]
    exact r.tight.trim_eq _ _ r.afterColon.blank r.after.blank

/-! ## Reading signatures -/

/-- The parameters of a list are what stands between its commas; blank ones are left out. -/
theorem parameterTexts_intercalate {parts : List (List Char)}
    (hparts : ∀ part ∈ parts, IsPart (· = ',') part) (rest : List Char) :
    parameterTexts ('(' :: (List.intercalate [','] parts ++ ')' :: rest)) =
      (parts.map trim).filter (· ≠ []) := by
  have hinside : Balanced (List.intercalate [','] parts) :=
    balanced_intercalate (by decide) fun part hpart => (hparts part hpart).balanced
  rw [parameterTexts, group?_of_balanced hinside]
  dsimp only
  by_cases hne : parts = []
  · -- Nothing at all stands between the brackets, which is one empty part.
    subst hne
    rfl
  · rw [splitTopLevel_intercalate (by decide) (by decide) parts hne hparts]

section List

variable (ps : List PrintedParameter) (blanks : List Gap) (rest : List Char)

theorem isPart_of_mem_listParts : ∀ part ∈ listParts ps blanks, IsPart (· = ',') part := by
  intro part hpart
  rcases List.mem_append.1 hpart with hpart | hpart
  · obtain ⟨p, -, rfl⟩ := List.mem_map.1 hpart
    exact p.isPart_text
  · obtain ⟨g, -, rfl⟩ := List.mem_map.1 hpart
    exact g.isPart.mono fun _ => isSeparator_of_comma

theorem group?_insideText :
    group? ('(' :: (insideText ps blanks ++ ')' :: rest)) = some (insideText ps blanks, rest) :=
  group?_of_balanced (balanced_intercalate (by decide) fun part hpart =>
    (isPart_of_mem_listParts ps blanks part hpart).balanced) rest

/-- The parts of a list are the parameters that are printed; blank ones are left out. -/
theorem parameterTexts_insideText :
    parameterTexts ('(' :: (insideText ps blanks ++ ')' :: rest)) = ps.map PrintedParameter.core := by
  have hparameters : ((ps.map PrintedParameter.text).map trim).filter (· ≠ []) =
      ps.map PrintedParameter.core := by
    rw [List.map_map, List.filter_eq_self.2]
    · exact List.map_congr_left fun p _ => p.trim_text
    · intro x hx
      obtain ⟨p, -, rfl⟩ := List.mem_map.1 hx
      simpa [p.trim_text] using p.core_ne_nil
  have hblanks : ((blanks.map Gap.text).map trim).filter (· ≠ []) = [] := by
    rw [List.filter_eq_nil_iff]
    intro x hx
    rw [List.map_map] at hx
    obtain ⟨g, -, rfl⟩ := List.mem_map.1 hx
    simp [g.trim_text]
  rw [insideText, parameterTexts_intercalate (isPart_of_mem_listParts ps blanks), listParts,
    List.map_append, List.filter_append, hparameters, hblanks, List.append_nil]

theorem parameters_insideText :
    parameters (String.ofList ('(' :: (insideText ps blanks ++ ')' :: rest))) =
      ps.map PrintedParameter.parameter := by
  rw [parameters, String.toList_ofList, parameterTexts_insideText, List.map_map]
  exact List.map_congr_left fun p _ => p.parameterOf_core "param"

end List

theorem PrintedSignature.returnType_text (s : PrintedSignature) :
    Signature.returnType (String.ofList s.text) = s.returnType := by
  rw [Signature.returnType, String.toList_ofList, text, group?_insideText, behind,
    PrintedSignature.returnType]
  cases s.returned with
  | none => rfl
  | some r =>
    have htrim : trim (r.beforeColon.text ++ ':' :: r.typed) = ':' :: trimEnd r.typed :=
      trim_append_cons (by decide) r.beforeColon.blank r.typed
    simp only [htrim, r.trim_beforeBody_typed, orElse, if_neg r.tight.ne_nil]

/-- **A signature is read as it was printed**: its parameters are those that were printed, in order and
without their default values, and its return type is the printed one, or the one of what has none. -/
theorem signature_of_printed (s : PrintedSignature) :
    parameters (String.ofList s.text) = s.parameters.map PrintedParameter.parameter ∧
      returnType (String.ofList s.text) = s.returnType :=
  ⟨parameters_insideText s.parameters s.blanks s.behind, s.returnType_text⟩

/-- A printed signature with a default value, a trailing comma and a body. -/
example : String.ofList (PrintedSignature.text {
    parameters := [{
      before := .empty
      name := ⟨['m'], .of_forall (by decide) (by decide), by decide⟩
      beforeColon := .empty
      afterColon := .space
      type := {
        text := ['M', '<', 'K', ',', 'V', '>']
        tight := .of_forall (by decide) (by decide)
        part := ⟨by decide, by decide⟩ }
      after := .space
      default := some ⟨[' ', '(', 'a', ',', 'b', ')'], by decide, by decide⟩ }]
    blanks := [.space]
    returned := some {
      beforeColon := .empty
      afterColon := .space
      type := ['T']
      tight := .of_forall (by decide) (by decide)
      no_body := by decide
      after := .space
      body := some ⟨'=', by decide, [' ', 't']⟩ } }) = "(m: M<K,V> = (a,b), ): T = t" := by decide

end Testsmith.Signature
