import Testsmith.Extraction.Symbols
import Testsmith.Proofs.ClassMethods
import Testsmith.Proofs.Qualifiers
import Testsmith.Proofs.TypeSyntax

/-!
# The agreement of the extractors

A class is known in two ways: by its source, which patterns are searched in, and by its symbol tree, in
which the signatures are parsed. For a class as it is printed (`PrintedClass`) both ways give the same
name, the same dependencies and the same methods, which are those that were printed
(`extractors_agree`). Neither way knows of the other one's cuts: the patterns find the end of a list by
the colon behind it, while the parser counts brackets.
-/

namespace Testsmith

open Text Signature Source

/-! ## Printed classes -/

/-- A parameter as it is printed, with a type of the syntax. -/
structure TypedName where
  before : Gap
  name : Name
  beforeColon : Gap
  afterColon : Gap
  type : WrittenType
  after : Gap

/-- A property among the parameters of a constructor. -/
structure PrintedProperty where
  before : Gap
  modifiers : List WrittenModifier
  keyword : PropertyKeyword
  declared : TypedName
  parted : declared.before.text ≠ []

/-- A function on a line of its own. -/
structure PrintedMethod where
  indent : Gap
  apart : indent.text ≠ []
  name : Name
  visible : name.text.head? ≠ some '_'
  parameters : List TypedName
  returned : List Char
  returned_ne : returned ≠ []
  returned_type : returned.all isTypeChar = true

/-- A class with its package, its constructor, a supertype and functions. No segment of the package ends
with a keyword that is looked for. -/
structure PrintedClass where
  package : List Name
  no_keyword : ∀ segment ∈ package, ∀ keyword ∈ ["class", "fun"], ¬ keyword.toList <:+ segment.text
  name : Name
  properties : List PrintedProperty
  supertype : WrittenType
  methods : List PrintedMethod

/-- The kinds that an analyser gives to a class and to its members. -/
structure MemberKinds where
  ofClass : SymbolKind
  ofConstructor : SymbolKind
  ofMethod : SymbolKind
  constructor_known : (Symbol.node none (some ofConstructor) none []).isConstructor = true
  method_known : (Symbol.node none (some ofMethod) none []).isMethod = true

/-! ## Texts and symbols -/

def TypedName.written (p : TypedName) : WrittenParameter where
  before := p.before
  name := p.name
  beforeColon := p.beforeColon
  afterColon := p.afterColon
  type := p.type.typeText
  after := p.after

namespace PrintedProperty

variable (p : PrintedProperty)

def text : List Char :=
  p.before.text ++ (modifiersText p.modifiers ++ (p.keyword.text.toList ++ p.declared.written.text))

/-- The dependency that a property declares. -/
def parameter : Parameter := p.declared.written.parameter

end PrintedProperty

namespace PrintedMethod

variable (m : PrintedMethod)

/-- The text between the brackets. -/
def inside : List Char := listText (m.parameters.map TypedName.written)

/-- What follows the name. -/
def signature : List Char := '(' :: (m.inside ++ (')' :: ':' :: ' ' :: m.returned))

def text : List Char := m.indent.text ++ ("fun ".toList ++ (m.name.text ++ m.signature))

/-- The method that is declared. -/
def method : Method where
  name := String.ofList m.name.text
  returnType := String.ofList m.returned
  parameters := m.parameters.map fun p => p.written.parameter

def symbol (kinds : MemberKinds) : Symbol :=
  .node (some (String.ofList m.name.text)) (some kinds.ofMethod) (some (String.ofList m.signature)) []

end PrintedMethod

namespace PrintedClass

variable (c : PrintedClass)

/-- The text in front of the class. -/
def preamble : List Char :=
  "package ".toList ++ (List.intercalate ['.'] (c.package.map (·.text)) ++ ['\n', '\n'])

/-- The text between the brackets of the constructor. -/
def inside : List Char := List.intercalate [','] (c.properties.map PrintedProperty.text)

/-- The text from the brace of the class on. -/
def body : List Char := '\x7b' :: (c.methods.flatMap PrintedMethod.text ++ ['\n', '\x7d'])

def text : List Char :=
  c.preamble ++ ("class ".toList ++ (c.name.text ++ '(' :: (c.inside ++ ')' :: ' ' :: ':' :: ' ' ::
    (c.supertype.text ++ ' ' :: c.body))))

def constructorSymbol (kinds : MemberKinds) : Symbol :=
  .node none (some kinds.ofConstructor) (some (String.ofList ('(' :: (c.inside ++ [')'])))) []

/-- The symbol tree of the class. -/
def symbol (kinds : MemberKinds) : Symbol :=
  .node (some (String.ofList c.name.text)) (some kinds.ofClass) none
    (c.constructorSymbol kinds :: c.methods.map (·.symbol kinds))

def dependencies : List Parameter := c.properties.map PrintedProperty.parameter

end PrintedClass

namespace PrintedProperty

variable (p : PrintedProperty)

/-- The part of a property in front of its keyword. -/
def lead : List Char := p.before.text ++ modifiersText p.modifiers

theorem isMark_lead : ∀ c ∈ p.lead, isMark c = false := by
  intro c hc
  rcases List.mem_append.1 hc with hc | hc
  · exact isMark_of_isBlank (p.before.blank c hc)
  · exact isMark_modifiersText c hc

theorem quiet_lead : Quiet p.lead := by
  have hend : ∀ keyword : PropertyKeyword, ∀ word ∈ Signature.modifiers,
      ¬ keyword.text.toList <:+ word.toList := by
    rintro (_ | _) <;> decide +kernel
  have hlacks : ∀ keyword : PropertyKeyword, Lacks keyword.text p.lead [] := fun keyword =>
    lacks_modifiersText (by cases keyword <;> decide) (by cases keyword <;> decide) (hend keyword)
      p.before
  exact quiet_of_lacks hlacks

/-- The property as one of a class. -/
def written : WrittenProperty where
  lead := p.lead
  lead_part := (isPart_of_not_mark p.isMark_lead).mono fun _ => isSeparator_of_comma
  lead_quiet := p.quiet_lead
  lead_apart := any_isWord_modifiersText (any_isWord_of_blank p.before.blank) p.modifiers
  keyword := p.keyword
  declared := p.declared.written.printed
  parted := p.parted
  name_word := p.declared.name.all_word
  no_equals := p.declared.type.syntactic.not_mem (by decide) (by decide) (by decide)

theorem text_written : p.written.text = p.text := by
  show p.lead ++ (p.keyword.text.toList ++ p.declared.written.printed.text) = p.text
  rw [WrittenParameter.text_printed, lead, List.append_assoc, text]

/-- The keyword of a property with all that stands in front of it, and the blanks behind it. -/
def qualifiers : List Char :=
  modifiersText p.modifiers ++ (p.keyword.text.toList ++ p.declared.before.text)

theorem isMark_qualifiers : ∀ c ∈ p.qualifiers, isMark c = false := by
  intro c hc
  have hkeyword : ∀ c ∈ p.keyword.text.toList, isMark c = false := by
    cases p.keyword <;> decide
  rcases List.mem_append.1 hc with hc | hc
  · exact isMark_modifiersText c hc
  · exact (List.mem_append.1 hc).elim (hkeyword c) fun h =>
      isMark_of_isBlank (p.declared.before.blank c h)

/-- The qualifiers start with a word. -/
theorem head?_qualifiers (rest : List Char) :
    ∀ c, (p.qualifiers ++ rest).head? = some c → isWord c = true := by
  rw [qualifiers, List.append_assoc, List.append_assoc]
  exact head?_modifiersText_append (head?_keyword_isWord p.keyword _)

/-- The property as a parameter whose name takes the qualifiers in. -/
def qualified : PrintedParameter where
  before := p.before
  name := {
    text := p.qualifiers ++ p.declared.name.text
    tight := ⟨by simp [p.declared.name.ne_nil],
      fun c hc => isBlank_of_isWord (p.head?_qualifiers _ c hc), p.declared.name.tight.last_append _⟩
    no_mark := by
      intro c hc
      rcases List.mem_append.1 hc with hc | hc
      · exact p.isMark_qualifiers c hc
      · exact isMark_of_isWord (p.declared.name.word c hc) }
  beforeColon := p.declared.beforeColon
  afterColon := p.declared.afterColon
  type := p.declared.written.printed.type
  after := p.declared.after
  default := none

theorem text_qualified : p.qualified.text = p.text := by
  simp [PrintedParameter.text, PrintedParameter.typed, qualified, qualifiers, text, defaultText,
    WrittenParameter.text, WrittenParameter.core, WrittenParameter.printed, TypedName.written]

/-- The qualifiers of a property are dropped, and nothing else. -/
theorem dropQualifiers_append {rest : List Char} (hrest : Flush rest) :
    dropQualifiers (p.qualifiers ++ rest) = rest := by
  have hplain := Testsmith.dropQualifiers_append [] p.modifiers p.keyword p.parted hrest
  simpa [qualifiers, annotationsText] using hplain

theorem core_qualified : p.qualified.core = p.qualifiers ++ p.declared.written.printed.core := by
  simp [PrintedParameter.core, PrintedParameter.typed, qualified, WrittenParameter.printed,
    TypedName.written]

end PrintedProperty

/-! ## The symbol tree -/

section Kinds

variable {s : Symbol}

theorem isMethod_of_isConstructor (h : s.isConstructor = true) : s.isMethod = false := by
  unfold Symbol.isConstructor Symbol.hasKind at h
  unfold Symbol.isMethod Symbol.hasKind
  split at h
  · next n _ =>
    have hnine : n = 9 := by simpa using h
    rw [hnine]
    decide
  · next tag _ =>
    have hname : String.ofList (lowerAll tag.toList) = "constructor" := by simpa using h
    rw [hname]
    decide
  · cases h

theorem isConstructor_of_isMethod (h : s.isMethod = true) : s.isConstructor = false := by
  cases hs : s.isConstructor with
  | false => rfl
  | true => rw [isMethod_of_isConstructor hs] at h; cases h

end Kinds

namespace PrintedClass

variable (c : PrintedClass) (kinds : MemberKinds)

theorem isConstructor_constructorSymbol : (c.constructorSymbol kinds).isConstructor = true :=
  kinds.constructor_known

theorem isMethod_symbol (m : PrintedMethod) : (m.symbol kinds).isMethod = true := kinds.method_known

theorem filter_isConstructor_symbol :
    (c.symbol kinds).children.filter Symbol.isConstructor = [c.constructorSymbol kinds] := by
  have hmethods : (c.methods.map (·.symbol kinds)).filter Symbol.isConstructor = [] := by
    rw [List.filter_eq_nil_iff]
    intro s hs
    obtain ⟨m, -, rfl⟩ := List.mem_map.1 hs
    rw [isConstructor_of_isMethod (isMethod_symbol kinds m)]
    exact Bool.false_ne_true
  show (c.constructorSymbol kinds :: c.methods.map (·.symbol kinds)).filter _ = _
  rw [List.filter_cons, if_pos (c.isConstructor_constructorSymbol kinds), hmethods]

theorem filter_isMethod_symbol :
    (c.symbol kinds).children.filter Symbol.isMethod = c.methods.map (·.symbol kinds) := by
  have hmethods : (c.methods.map (·.symbol kinds)).filter Symbol.isMethod =
      c.methods.map (·.symbol kinds) := by
    rw [List.filter_eq_self]
    intro s hs
    obtain ⟨m, -, rfl⟩ := List.mem_map.1 hs
    exact isMethod_symbol kinds m
  show (c.constructorSymbol kinds :: c.methods.map (·.symbol kinds)).filter _ = _
  rw [List.filter_cons, isMethod_of_isConstructor (c.isConstructor_constructorSymbol kinds), hmethods]
  rfl

/-- A class with a constructor describes itself. -/
theorem classSymbol_symbol : (c.symbol kinds).classSymbol = c.symbol kinds := by
  have hmember : (c.symbol kinds).children.any (fun s => s.isMethod || s.isConstructor) = true := by
    refine List.any_eq_true.2 ⟨c.constructorSymbol kinds, List.mem_cons_self, ?_⟩
    rw [c.isConstructor_constructorSymbol kinds, Bool.or_true]
  rw [Symbol.classSymbol, if_pos hmember]

/-- The dependencies that are parsed are those that were printed. -/
theorem dependencies_constructor :
    Signature.dependencies (String.ofList ('(' :: (c.inside ++ [')']))) = c.dependencies := by
  have hinside : c.inside = insideText (c.properties.map PrintedProperty.qualified) [] := by
    rw [insideText, listParts, List.map_nil, List.append_nil, List.map_map, inside]
    exact congrArg _ (List.map_congr_left fun p _ => p.text_qualified.symm)
  rw [Signature.dependencies, String.toList_ofList, hinside, parameterTexts_insideText,
    List.map_map, List.map_map, dependencies]
  refine List.map_congr_left fun p _ => ?_
  have hname : ∀ d, p.declared.written.printed.core.head? = some d → isBlank d = false :=
    p.declared.name.tight.head_append _
  show parameterOf "dependency" (dropQualifiers p.qualified.core) = _
  rw [p.core_qualified, p.dropQualifiers_append hname, PrintedParameter.parameterOf_core]
  rfl

end PrintedClass

namespace PrintedMethod

variable (m : PrintedMethod)

theorem typeChars : ∀ c ∈ m.returned, isTypeChar c = true := List.all_eq_true.1 m.returned_type

/-- The signature of a method, as one that is printed. -/
def printed : PrintedSignature where
  parameters := (m.parameters.map TypedName.written).map WrittenParameter.printed
  blanks := []
  returned := some {
    beforeColon := .empty
    afterColon := .space
    type := m.returned
    tight := .of_forall m.returned_ne fun c hc => isBlank_of_isTypeChar (m.typeChars c hc)
    no_body := by
      intro c hc
      have htype := m.typeChars c hc
      constructor <;> rintro rfl <;> exact absurd htype (by decide)
    after := .empty
    body := none }

theorem text_printed : m.printed.text = m.signature := by
  have hinside : insideText m.printed.parameters m.printed.blanks = m.inside := insideText_printed _
  rw [PrintedSignature.text, hinside]
  simp [signature, printed, PrintedSignature.behind, PrintedReturn.typed, bodyText]

/-- Nothing in the name or the signature marks the method as private. -/
theorem isPrivate_symbol (kinds : MemberKinds) : (m.symbol kinds).isPrivate = false := by
  have hname : startsWith "_" m.name.text = false := by
    obtain ⟨c, name, hc⟩ := List.exists_cons_of_ne_nil m.name.ne_nil
    have hvisible : c ≠ '_' := by simpa [hc] using m.visible
    simp [startsWith, List.isPrefixOf, hc, Ne.symm hvisible]
  have hdetail : startsWith "private " (trimStart m.signature) = false := by
    rw [signature, trimStart_of_head (by rintro c ⟨⟩; decide)]
    rfl
  show (startsWith "_" (String.ofList m.name.text).toList ||
    startsWith "private " (trimStart (String.ofList m.signature).toList)) = false
  rw [String.toList_ofList, String.toList_ofList, hname, hdetail]
  rfl

/-- A signature is parsed as the method that was printed. -/
theorem method_symbol (kinds : MemberKinds) : (m.symbol kinds).method = m.method := by
  have hparameters : Signature.parameters (String.ofList m.signature) = m.method.parameters := by
    rw [← m.text_printed, PrintedSignature.text, parameters_insideText]
    simp [printed, method, WrittenParameter.printed, PrintedParameter.parameter,
      WrittenParameter.parameter]
  have hreturned : Signature.returnType (String.ofList m.signature) = m.method.returnType := by
    rw [← m.text_printed, PrintedSignature.returnType_text]
    rfl
  show ({ name := String.ofList m.name.text
          returnType := Signature.returnType (String.ofList m.signature)
          parameters := Signature.parameters (String.ofList m.signature)
          isPrivate := (m.symbol kinds).isPrivate } : Method) = _
  rw [hparameters, hreturned, m.isPrivate_symbol]
  rfl

end PrintedMethod

namespace PrintedClass

variable (c : PrintedClass) (kinds : MemberKinds)

theorem className_symbol (settings : GenerationSettings) (path : String) :
    ((c.symbol kinds).descriptor settings path).className = String.ofList c.name.text := by
  have hne : String.ofList c.name.text ≠ "" := fun h => by
    have htext := congrArg String.toList h
    rw [String.toList_ofList] at htext
    exact c.name.ne_nil htext
  have hsymbol : (c.symbol kinds).name = some (String.ofList c.name.text) := rfl
  rw [Symbol.descriptor, c.classSymbol_symbol kinds]
  dsimp only
  split
  · next h => rw [hsymbol] at h; cases h
  · next h => exact absurd (Option.some.inj (hsymbol.symm.trans h)) hne
  · next h => exact (Option.some.inj (hsymbol.symm.trans h)).symm

theorem dependencies_symbol (settings : GenerationSettings) (path : String) :
    ((c.symbol kinds).descriptor settings path).dependencies = c.dependencies := by
  rw [Symbol.descriptor, c.classSymbol_symbol kinds]
  dsimp only
  rw [c.filter_isConstructor_symbol kinds, List.flatMap_cons, List.flatMap_nil, List.append_nil]
  exact c.dependencies_constructor

theorem methods_symbol (settings : GenerationSettings) (path : String) :
    ((c.symbol kinds).descriptor settings path).methods = c.methods.map PrintedMethod.method := by
  rw [Symbol.descriptor, c.classSymbol_symbol kinds]
  dsimp only
  rw [c.filter_isMethod_symbol kinds, List.map_map]
  exact List.map_congr_left fun m _ => m.method_symbol kinds

end PrintedClass

/-! ## The source -/

namespace PrintedProperty

variable (p : PrintedProperty)

theorem unended_text : Unended p.text [] := by
  have hkeyword : ')' ∉ p.keyword.text.toList := by cases p.keyword <;> decide
  have hlead : ')' ∉ p.lead := fun h => absurd (p.isMark_lead _ h) (by decide)
  have htext : p.text = p.lead ++ (p.keyword.text.toList ++ p.declared.written.text) := by
    simp [text, lead]
  rw [htext]
  exact (Unended.of_not_mem hlead).append
    ((Unended.of_not_mem hkeyword).append (unended_parameter p.declared.written))

/-- No function is declared in a property. -/
theorem unnamed_text {rest : List Char}
    (hrest : ∀ c, (trimStart rest).head? = some c → isWord c = false) : Unnamed "fun" p.text rest := by
  have hgap : ∀ (g : Gap) {rest}, Unnamed "fun" g.text rest := fun g =>
    unnamed_fun (not_mem_of_class g.blank (by decide))
  have hend : ∀ word ∈ Signature.modifiers, ¬ "fun".toList <:+ word.toList := by decide +kernel
  have hlead : ∀ {rest}, Unnamed "fun" p.lead rest :=
    (lacks_modifiersText (by decide) (by decide) hend p.before).unnamed
  have hkeyword : ∀ {rest}, Unnamed "fun" p.keyword.text.toList rest := by
    intro rest
    cases p.keyword <;> exact unnamed_fun (by decide)
  have hafter : ∀ c, (trimStart (p.declared.after.text ++ rest)).head? = some c →
      isWord c = false := by
    rwa [trimStart_append p.declared.after.blank]
  have htype : Unnamed "fun" p.declared.type.text (p.declared.after.text ++ rest) :=
    p.declared.type.syntactic.unnamed (by decide) (by decide) hafter
  have hcolon : Unnamed "fun" (':' :: (p.declared.afterColon.text ++ p.declared.type.text))
      (p.declared.after.text ++ rest) :=
    .append (x := [':']) (unnamed_fun (by decide)) (.append (hgap _) htype)
  have hname : Unnamed "fun" p.declared.written.core (p.declared.after.text ++ rest) := by
    refine .append (unnamed_word (by decide) p.declared.name.word ?_) (.append (hgap _) hcolon)
    rw [List.append_assoc]
    exact head?_trimStart_gap _ (by decide) (by decide) _
  have htext : p.text = p.lead ++ (p.keyword.text.toList ++ p.declared.written.text) := by
    simp [text, lead]
  rw [htext]
  exact hlead.append (hkeyword.append (.append (hgap _) (.append hname (hgap _))))

end PrintedProperty

namespace PrintedMethod

variable (m : PrintedMethod)

def declaration : Declaration where
  lead := m.indent
  afterFun := .space
  afterFun_ne := Gap.space_ne
  name := m.name
  beforeList := .empty
  parameters := m.parameters.map TypedName.written
  returned := some {
    beforeColon := .empty
    afterColon := .space
    type := m.returned
    ne_nil := m.returned_ne
    all_type := m.returned_type }
  body := none

theorem text_declaration : m.declaration.text = m.text := by
  simp [Declaration.text, Declaration.head, Declaration.returnText, Declaration.bodyText, declaration,
    text, signature, inside]

theorem methodWith_declaration : m.declaration.methodWith m.declaration = m.method := by
  simp [Declaration.methodWith, declaration, method]

end PrintedMethod

namespace PrintedClass

variable (c : PrintedClass)

def list : ClassList where
  before := .empty
  parameters := c.properties.map fun p => .property p.written
  unended := by
    refine unended_intercalate fun part hpart => ?_
    obtain ⟨q, hq, rfl⟩ := List.mem_map.1 hpart
    obtain ⟨p, -, rfl⟩ := List.mem_map.1 hq
    show Unended p.written.text []
    rw [p.text_written]
    exact p.unended_text

theorem inside_list : c.list.inside = c.inside := by
  show List.intercalate [','] ((c.properties.map _).map _) = _
  rw [List.map_map, inside]
  exact congrArg _ (List.map_congr_left fun p _ => p.text_written)

theorem properties_list : c.list.properties = c.dependencies := by
  show (c.properties.map _).filterMap _ = _
  rw [List.filterMap_map, dependencies, ← List.filterMap_eq_map]
  rfl

/-- No class and no function is declared in front of the class. -/
theorem lacks_preamble {keyword : String} (hkeyword : keyword ∈ ["class", "fun"]) {rest : List Char} :
    Lacks keyword c.preamble rest := by
  have hwords : ∀ keyword ∈ ["class", "fun"], keyword.toList ≠ [] ∧
      (∀ c ∈ keyword.toList, isWord c = true) ∧ ¬ keyword.toList <:+ "package".toList := by
    decide +kernel
  obtain ⟨hne, hword, hpackage⟩ := hwords keyword hkeyword
  have hmarks : ∀ {x rest : List Char}, (∀ c ∈ x, isWord c = false) → Lacks keyword x rest :=
    lacks_of_not_word hword hne
  have hdot : ∀ text, ¬ StartsWith keyword ('.' :: text) := fun text =>
    (hmarks (by decide) : Lacks keyword ['.'] text) [] ['.'] rfl (by decide)
  have hsegments : Lacks keyword (List.intercalate ['.'] (c.package.map (·.text)))
      (['\n', '\n'] ++ rest) := by
    refine atEach_intercalate (Q := fun rest => ∀ c, rest.head? = some c → isWord c = false) ?_
      (fun text => ⟨hdot text, by rintro d ⟨⟩; decide⟩) (by rintro d ⟨⟩; decide)
    intro part hpart rest hrest
    obtain ⟨segment, hsegment, rfl⟩ := List.mem_map.1 hpart
    exact lacks_word hword segment.word (c.no_keyword segment hsegment keyword hkeyword) hrest
  have hbehind : Lacks keyword ([' '] ++ (List.intercalate ['.'] (c.package.map (·.text)) ++
      ['\n', '\n'])) rest :=
    (hmarks (by decide)).append (hsegments.append (hmarks (by decide)))
  exact AtEach.append (x := "package".toList)
    (lacks_word hword (by decide +kernel) hpackage (by rintro d ⟨⟩; decide)) hbehind

def source : ClassSource where
  preamble := c.preamble
  preamble_lacks := c.lacks_preamble (by decide)
  gap := .space
  gap_ne := Gap.space_ne
  name := c.name
  list := some c.list
  behind := ' ' :: ':' :: ' ' :: (c.supertype.text ++ ' ' :: c.body)
  no_list := nofun

theorem text_source : c.source.text = c.text := by
  have hafter : c.source.afterName = '(' :: (c.list.inside ++ ')' :: c.source.behind) := rfl
  rw [ClassSource.text, ClassSource.fromClass, hafter, inside_list]
  rfl

theorem className_text :
    (Source.descriptor (String.ofList c.text)).className = String.ofList c.name.text := by
  rw [Source.descriptor, String.toList_ofList, ← c.text_source]
  exact c.source.className_text

theorem dependencies_text :
    (Source.descriptor (String.ofList c.text)).dependencies = c.dependencies := by
  have hinside : Unended c.list.inside (')' :: c.source.behind) :=
    c.list.unended.extend (head?_trimStart_cons (by decide) (by decide) _)
  have hcolon : (trimStart c.source.behind).head? = some ':' := rfl
  rw [Source.descriptor, String.toList_ofList, ← c.text_source]
  show Source.dependencies c.source.text = _
  rw [c.source.dependencies_text_of_list rfl rfl hinside hcolon, c.list.propertiesIn_inside,
    c.properties_list]

/-- The functions of the class, as declarations of a class body. -/
def classText : ClassText where
  header := ⟨[], by simp⟩
  declarations := c.methods.map PrintedMethod.declaration
  separated := by
    rw [List.isChain_map]
    exact (List.pairwise_of_forall fun _ m _ => m.apart).isChain
  tail := .newline
  footer := .empty

theorem body_eq : c.body = ['\x7b'] ++ c.classText.bodyFrom c.classText.declarations := by
  have htexts : c.classText.declarations.flatMap Declaration.text =
      c.methods.flatMap PrintedMethod.text := by
    show (c.methods.map _).flatMap _ = _
    rw [List.flatMap_map]
    exact congrArg (fun f => c.methods.flatMap f) (funext PrintedMethod.text_declaration)
  rw [ClassText.bodyFrom, htexts]
  rfl

/-- The text in front of the body. -/
def front : List Char :=
  c.preamble ++ ("class ".toList ++ (c.name.text ++ '(' :: (c.inside ++ ')' :: ' ' :: ':' :: ' ' ::
    (c.supertype.text ++ [' ']))))

theorem text_eq : c.text = c.front ++ c.body := by
  simp [text, front]

/-- No function is declared in front of the body. -/
theorem unnamed_front {rest : List Char} : Unnamed "fun" c.front (['\x7b'] ++ rest) := by
  have hsupertype : Unnamed "fun" (c.supertype.text ++ [' ']) ('\x7b' :: rest) := by
    refine .append (c.supertype.syntactic.unnamed (by decide) (by decide) ?_)
      (unnamed_fun (by decide))
    exact head?_trimStart_gap .space (by decide) (by decide) rest
  have hcolon := Unnamed.append (x := [')', ' ', ':', ' ']) (unnamed_fun (by decide)) hsupertype
  have hproperties : Unnamed "fun" c.inside
      ([')', ' ', ':', ' '] ++ (c.supertype.text ++ [' ']) ++ '\x7b' :: rest) := by
    refine atEach_intercalate
      (Q := fun rest => ∀ c, (trimStart rest).head? = some c → isWord c = false) ?_ ?_ ?_
    · intro part hpart rest hrest
      obtain ⟨p, -, rfl⟩ := List.mem_map.1 hpart
      exact p.unnamed_text hrest
    · intro text
      have hcomma : Unnamed "fun" [','] text := unnamed_fun (by decide)
      exact ⟨hcomma [] [','] rfl (by decide),
        head?_trimStart_gap .empty (by decide) (by decide) text⟩
    · exact head?_trimStart_gap .empty (by decide) (by decide) _
  have hlist := Unnamed.append (x := ['(']) (unnamed_fun (by decide)) (hproperties.append hcolon)
  refine .append (c.lacks_preamble (by decide)).unnamed (.append (unnamed_fun (by decide)) ?_)
  refine .append (unnamed_word (by decide) c.name.word ?_) hlist
  exact head?_trimStart_gap .empty (by decide) (by decide) _

/-- Where every declaration has a return type, each opens its own match. -/
theorem openings_of_returned {ds : List Declaration} (h : ∀ d ∈ ds, d.returned.isSome = true) :
    openings none ds = ds.map fun d => (d, d) := by
  induction ds with
  | nil => rfl
  | cons d ds ih =>
    obtain ⟨r, hr⟩ := Option.isSome_iff_exists.1 (h d List.mem_cons_self)
    rw [openings_cons_of_some hr, ih fun e he => h e (List.mem_cons_of_mem d he)]
    rfl

theorem methods_text :
    (Source.descriptor (String.ofList c.text)).methods = c.methods.map PrintedMethod.method := by
  have hreturned : ∀ d ∈ c.classText.declarations, d.returned.isSome = true := by
    intro d hd
    obtain ⟨m, -, rfl⟩ := List.mem_map.1 hd
    rfl
  have hopen : 'f' ∉ ['\x7b'] := by decide
  rw [Source.descriptor, String.toList_ofList, c.text_eq, c.body_eq]
  show allMatches (.ofReader Source.method) (c.front ++ (['\x7b'] ++ _)) = _
  rw [allMatches_append_of_unnamed c.unnamed_front, allMatches_append_of_not_mem hopen,
    (c.classText.allMatches_bodyFrom _ c.classText.separated).1, openings_of_returned hreturned,
    List.map_map]
  show (c.methods.map _).map _ = _
  rw [List.map_map]
  exact List.map_congr_left fun m _ => m.methodWith_declaration

end PrintedClass

/-- **The extractors agree**: the patterns find in the source of a printed class what the signatures of
its symbol tree say, and both are what was printed. -/
theorem extractors_agree (c : PrintedClass) (kinds : MemberKinds) (settings : GenerationSettings)
    (path : String) :
    let found := Source.descriptor (String.ofList c.text)
    let known := (c.symbol kinds).descriptor settings path
    (found.className = known.className ∧ found.dependencies = known.dependencies ∧
      found.methods = known.methods) ∧
    known.className = String.ofList c.name.text ∧ known.dependencies = c.dependencies ∧
      known.methods = c.methods.map PrintedMethod.method := by
  have hname := c.className_symbol kinds settings path
  have hdependencies := c.dependencies_symbol kinds settings path
  have hmethods := c.methods_symbol kinds settings path
  refine ⟨⟨?_, ?_, ?_⟩, hname, hdependencies, hmethods⟩
  · rw [c.className_text, hname]
  · rw [c.dependencies_text, hdependencies]
  · rw [c.methods_text, hmethods]

/-- A printed class with a property of a generic type and a function. -/
example : String.ofList (PrintedClass.text {
    package := [⟨['a'], by decide, by decide⟩, ⟨['b'], by decide, by decide⟩]
    no_keyword := by decide
    name := ⟨['C'], by decide, by decide⟩
    properties := [{
      before := .empty
      modifiers := [⟨"private", by decide, .space, Gap.space_ne⟩]
      keyword := .val
      declared := {
        before := .space
        name := ⟨['x'], by decide, by decide⟩
        beforeColon := .empty
        afterColon := .space
        type := ⟨_, .generic (.name ⟨['L'], by decide, by decide⟩)
          (.last .empty (.name ⟨['X'], by decide, by decide⟩) .empty)⟩
        after := .empty }
      parted := Gap.space_ne }]
    supertype := ⟨_, .name ⟨['S'], by decide, by decide⟩⟩
    methods := [{
      indent := ⟨['\n', ' ', ' '], by decide⟩
      apart := by decide
      name := ⟨['f'], by decide, by decide⟩
      visible := by decide
      parameters := []
      returned := ['R', '?']
      returned_ne := by decide
      returned_type := by decide }] }) =
    "package a.b\n\nclass C(private val x: L<X>) : S \x7b\n  fun f(): R?\n\x7d" := by decide +kernel

end Testsmith
