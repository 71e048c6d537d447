import Mathlib.Data.List.Basic
import Testsmith.Proofs.SourcePatterns

/-!
# Dependencies of a class

The dependencies that are found in a source whose first class is written with a parameter list or
without one. The search for the end of the list wants a colon behind the closing bracket. Where the list
has one, the properties of the list are found (`propertiesIn_inside`). Where it has none, the search runs
on over whatever follows, and what it finds is no dependency of the class: only a source in which no
further closing bracket has a colon behind it gives none (`dependencies_of_class`).
-/

namespace Testsmith.Source

open Text Signature

/-! ## Written classes -/

/-- A keyword that makes a parameter of a class a property of it. -/
inductive PropertyKeyword where
  | val
  | var
  deriving DecidableEq, Repr

def PropertyKeyword.text : PropertyKeyword → String
  | .val => "val"
  | .var => "var"

/-- No keyword of a property starts in the text, with a blank behind it and no word character before. -/
def Quiet (x : List Char) : Prop :=
  ∀ u v, x = u ++ v → u.getLast?.any isWord = false →
    ∀ keyword : PropertyKeyword, ¬ StartsWith keyword.text v

/-- A property as it is written, behind annotations and modifiers: a keyword, and a parameter that is
parted from it by blanks. -/
structure WrittenProperty where
  lead : List Char
  lead_part : IsPart (· = ',') lead
  lead_quiet : Quiet lead
  lead_apart : lead.getLast?.any isWord = false
  keyword : PropertyKeyword
  declared : PrintedParameter
  parted : declared.before.text ≠ []
  name_word : declared.name.text.all isWord = true
  no_equals : '=' ∉ declared.type.text

/-- A parameter of a class as it is written. A blank one at the end makes the comma in front of it a
trailing one. -/
inductive ClassParameter where
  | property (p : WrittenProperty)
  | plain (text : List Char) (part : IsPart (· = ',') text) (quiet : Quiet text)

namespace WrittenProperty

variable (p : WrittenProperty)

def text : List Char := p.lead ++ (p.keyword.text.toList ++ p.declared.text)

/-- The name of a property. -/
def name : Name := ⟨p.declared.name.text, p.declared.name.tight.ne_nil, p.name_word⟩

/-- The text in front of the colon, from the keyword on. -/
def front : List Char :=
  p.keyword.text.toList ++
    (p.declared.before.text ++ (p.name.text ++ p.declared.beforeColon.text))

theorem text_eq : p.text = p.lead ++ (p.front ++ ':' :: p.declared.typed) := by
  simp [text, front, name, PrintedParameter.text]

end WrittenProperty

namespace ClassParameter

def text : ClassParameter → List Char
  | property p => p.text
  | plain text _ _ => text

def property? : ClassParameter → Option Parameter
  | property p => some p.declared.parameter
  | plain _ _ _ => none

end ClassParameter

/-- The text between the brackets of the parameter list of a class. -/
def classListText (ps : List ClassParameter) : List Char :=
  List.intercalate [','] (ps.map ClassParameter.text)

/-- The parameter list of a class. Inside of it no closing bracket has a colon behind it. -/
structure ClassList where
  before : Gap
  parameters : List ClassParameter
  unended : Unended (classListText parameters) []

namespace ClassList

variable (l : ClassList)

def inside : List Char := classListText l.parameters

/-- The properties of a class, in order. -/
def properties : List Parameter := l.parameters.filterMap ClassParameter.property?

end ClassList

/-- A source from its start to the end of the name and the parameter list of its first class, and
whatever follows. -/
structure ClassSource where
  preamble : List Char
  preamble_lacks : Lacks "class" preamble []
  gap : Gap
  gap_ne : gap.text ≠ []
  name : Name
  list : Option ClassList
  behind : List Char
  no_list : list = none →
    (∀ c, behind.head? = some c → isWord c = false) ∧ (trimStart behind).head? ≠ some '('

namespace ClassSource

variable (c : ClassSource)

/-- What follows the name of the class. -/
def afterName : List Char :=
  match c.list with
  | some l => l.before.text ++ '(' :: (l.inside ++ ')' :: c.behind)
  | none => c.behind

/-- The source from the class on. -/
def fromClass : List Char :=
  "class".toList ++ (c.gap.text ++ (c.name.text ++ c.afterName))

def text : List Char := c.preamble ++ c.fromClass

/-- A colon follows, as it does where the class has supertypes. -/
def ColonFollows : Prop := (trimStart c.behind).head? = some ':'

instance : Decidable c.ColonFollows :=
  inferInstanceAs (Decidable ((trimStart c.behind).head? = some ':'))

end ClassSource

/-! ## Reading properties -/

/-- No blank is the end of a word. -/
theorem any_isWord_of_blank {gap : List Char} (h : ∀ c ∈ gap, isBlank c = true) :
    gap.getLast?.any isWord = false := by
  cases hlast : gap.getLast? with
  | none => rfl
  | some c => exact isWord_of_isBlank (h c (List.mem_of_getLast? hlast))

theorem quiet_of_lacks {x : List Char} (h : ∀ keyword : PropertyKeyword, Lacks keyword.text x []) :
    Quiet x := by
  intro u v huv _ keyword hstarts
  have hne : v ≠ [] := by
    rintro rfl
    obtain ⟨_, _, -, hv⟩ := hstarts
    simp at hv
  refine h keyword u v huv hne ?_
  rwa [List.append_nil]

theorem Quiet.of_append_right {x y : List Char} (h : Quiet (x ++ y))
    (hx : x.getLast?.any isWord = false) : Quiet y := by
  intro u v huv hu
  refine h (x ++ u) v (by rw [huv, List.append_assoc]) ?_
  rw [List.getLast?_append]
  cases hlast : u.getLast? with
  | none => exact hx
  | some c => rwa [hlast] at hu

theorem Quiet.of_append_left {x y : List Char} (h : Quiet (x ++ y)) : Quiet x := by
  rintro u v huv hu keyword ⟨blank, w, hblank, hv⟩
  refine h u (v ++ y) (by rw [huv, List.append_assoc]) hu keyword ?_
  exact ⟨blank, w ++ y, hblank, by simp [hv]⟩

theorem Quiet.trim {x : List Char} (h : Quiet x) : Quiet (trim x) := by
  obtain ⟨gap, hstart, hgap⟩ := exists_trimStart x
  obtain ⟨_, hend, -⟩ := exists_trimEnd (trimStart x)
  have hquiet : Quiet (trimStart x) := by
    rw [hstart] at h
    exact h.of_append_right (any_isWord_of_blank hgap)
  rw [hend] at hquiet
  exact hquiet.of_append_left

/-! ### At one place -/

theorem property_eq_none {before : Option Char} {text : List Char}
    (h : before.any isWord = false → ∀ keyword : PropertyKeyword,
      named keyword.text isWord text = none) : property before text = none := by
  cases hbefore : before.any isWord with
  | true => simp [property, hbefore]
  | false =>
    have hval : named "val" isWord text = none := h hbefore .val
    have hvar : named "var" isWord text = none := h hbefore .var
    simp [property, hval, hvar]

section Read

variable {before : Option Char} {text name rest typed type : List Char}

theorem property_of_named {keyword : PropertyKeyword} (hbefore : before.any isWord = false)
    (hnamed : named keyword.text isWord text = some (name, rest))
    (hmark : afterMark? ':' rest = some typed) (htype : propertyType typed = some type) :
    property before text = some (⟨String.ofList name, String.ofList type⟩, text.length) := by
  cases keyword with
  | val =>
    rw [PropertyKeyword.text] at hnamed
    simp [property, hbefore, hnamed, hmark, htype]
  | var =>
    have hval : named "val" isWord text = none := by
      obtain ⟨gap, rfl, -⟩ := exists_gap_of_named hnamed
      simp [named, after?, PropertyKeyword.text]
    rw [PropertyKeyword.text] at hnamed
    simp [property, hbefore, hval, hnamed, hmark, htype]

theorem exists_of_property {p : Parameter} {width : Nat} (h : property before text = some (p, width)) :
    before.any isWord = false ∧ ∃ (keyword : PropertyKeyword) (name rest typed type : List Char),
      named keyword.text isWord text = some (name, rest) ∧ afterMark? ':' rest = some typed ∧
        propertyType typed = some type ∧ p = ⟨String.ofList name, String.ofList type⟩ := by
  unfold property at h
  split at h
  · cases h
  · next hbefore =>
    refine ⟨by simpa using hbefore, ?_⟩
    simp only [Option.bind_eq_bind, Option.map_eq_some_iff, Option.or_eq_some_iff,
      Option.bind_eq_some_iff] at h
    obtain ⟨⟨_, _⟩, hread | ⟨-, hread⟩, h⟩ := h
    · obtain ⟨⟨name, rest⟩, hnamed, typed, hmark, type, htype, ⟨⟩⟩ := hread
      cases h
      exact ⟨.val, name, rest, typed, type, hnamed, hmark, htype, rfl⟩
    · obtain ⟨⟨name, rest⟩, hnamed, typed, hmark, type, htype, ⟨⟩⟩ := hread
      cases h
      exact ⟨.var, name, rest, typed, type, hnamed, hmark, htype, rfl⟩

end Read

theorem propertyType_of_takeWhile {text x : List Char} (h : text.takeWhile (· != '=') = x)
    (hne : x ≠ []) : propertyType text = some (trim x) := by
  rw [propertyType, h]
  cases x with
  | nil => contradiction
  | cons c x => rfl

theorem propertyType_of_not_mem {x : List Char} (h : '=' ∉ x) (hne : x ≠ []) :
    propertyType x = some (trim x) :=
  propertyType_of_takeWhile (congrArg Prod.fst (cutAt_of_not_mem h)) hne

theorem propertyType_append {x : List Char} (h : '=' ∉ x) (hne : x ≠ []) (rest : List Char) :
    propertyType (x ++ '=' :: rest) = some (trim x) :=
  propertyType_of_takeWhile (congrArg Prod.fst (cutAt_append h rest)) hne

theorem exists_of_propertyType {text type : List Char} (h : propertyType text = some type) :
    text.takeWhile (· != '=') ≠ [] ∧ type = trim (text.takeWhile (· != '=')) := by
  unfold propertyType at h
  split at h
  · cases h
  · next hne =>
    cases h
    exact ⟨hne, rfl⟩

section Typed

variable (p : PrintedParameter) (hequals : '=' ∉ p.type.text)

include hequals

/-- The type of a property is read to its end. -/
theorem propertyType_typed : propertyType (trimEnd p.typed) = some p.type.text := by
  have hgap : ∀ g : Gap, '=' ∉ g.text := fun g => not_mem_of_class g.blank (by decide)
  have hfront : '=' ∉ p.afterColon.text ++ p.type.text := by simp [hgap, hequals]
  have hne : p.afterColon.text ++ p.type.text ≠ [] :=
    List.append_ne_nil_of_right_ne_nil _ p.type.tight.ne_nil
  unfold PrintedParameter.typed
  cases p.default with
  | none =>
    have htrim := p.type.tight.trim_eq p.afterColon.text [] p.afterColon.blank (by simp)
    rw [List.append_nil] at htrim
    rw [defaultText, List.append_nil, ← List.append_assoc,
      trimEnd_append (p.type.tight.last_append _) p.after.blank,
      propertyType_of_not_mem hfront hne, htrim]
  | some value =>
    have hassoc : p.afterColon.text ++ (p.type.text ++ (p.after.text ++ '=' :: value.text)) =
        (p.afterColon.text ++ p.type.text ++ p.after.text) ++ '=' :: value.text := by
      simp
    have hall : '=' ∉ p.afterColon.text ++ p.type.text ++ p.after.text := by simp [hgap, hequals]
    rw [defaultText, hassoc, trimEnd_append_cons (by decide),
      propertyType_append hall (List.append_ne_nil_of_left_ne_nil hne _),
      List.append_assoc, p.type.tight.trim_eq _ _ p.afterColon.blank p.after.blank]

/-- Some type is read where more text follows. -/
theorem exists_propertyType_append (more : List Char) :
    ∃ type, propertyType (trimEnd (p.typed ++ more)) = some type := by
  obtain ⟨c, type, hc⟩ := List.exists_cons_of_ne_nil p.type.tight.ne_nil
  have hblank : isBlank c = false := p.type.tight.head c (by rw [hc]; rfl)
  have hne : c ≠ '=' := fun h => hequals (by rw [hc, h]; exact List.mem_cons_self)
  have htrim : trimEnd (p.typed ++ more) = p.afterColon.text ++
      c :: trimEnd (type ++ (p.after.text ++ defaultText p.default) ++ more) := by
    rw [PrintedParameter.typed, hc, List.append_assoc, List.cons_append, List.cons_append,
      trimEnd_append_cons hblank]
  refine ⟨_, propertyType_of_takeWhile rfl ?_⟩
  rw [htrim]
  cases hgap : p.afterColon.text with
  | nil => simp [hne]
  | cons d gap =>
    have hd : d ≠ '=' := ne_of_mem_of_not_mem (by rw [hgap]; exact List.mem_cons_self)
      (not_mem_of_class p.afterColon.blank (by decide))
    simp [hd]

end Typed

theorem match?_property_of_quiet {x : List Char} (h : Quiet x) :
    match? property (trim x) = none := by
  have hplace : ∀ u v, trim x = u ++ v → v ≠ [] →
      property (u.getLast?.or none) (v ++ []) = none := by
    intro u v huv hv
    rw [List.append_nil]
    exact property_eq_none fun hu keyword =>
      named_eq_none (h.trim u v huv (by simpa using hu) keyword)
  have hnone := matchFrom?_append_of_silent hplace
  rw [List.append_nil] at hnone
  have hend : ∀ before, property before [] = none := fun before =>
    property_eq_none fun _ keyword => by cases keyword <;> rfl
  rw [match?, hnone, matchFrom?, hend]
  rfl

theorem PropertyKeyword.isPart_text (keyword : PropertyKeyword) :
    IsPart (· = ',') keyword.text.toList := by
  cases keyword <;> exact isPart_of_not_bracket (by decide) (by decide)

namespace WrittenProperty

variable (p : WrittenProperty)

/-- The keyword of a property is read where it stands. -/
theorem property_front {before : Option Char} (hbefore : before.any isWord = false)
    {typed type : List Char} (htype : propertyType typed = some type) :
    ∃ width, property before (p.front ++ ':' :: typed) =
      some (⟨String.ofList p.name.text, String.ofList type⟩, width) := by
  have hnamed : named p.keyword.text isWord (p.front ++ ':' :: typed) =
      some (p.name.text, p.declared.beforeColon.text ++ ':' :: typed) := by
    have htext : p.front ++ ':' :: typed = p.keyword.text.toList ++ (p.declared.before.text ++
        (p.name.text ++ (p.declared.beforeColon.text ++ ':' :: typed))) := by
      simp [front]
    rw [htext]
    exact named_written _ p.parted p.name (head?_gap_mark p.declared.beforeColon (by decide))
  have hmark : afterMark? ':' (p.declared.beforeColon.text ++ ':' :: typed) = some typed :=
    afterMark?_append p.declared.beforeColon.blank (by decide) typed
  exact ⟨_, property_of_named hbefore hnamed hmark htype⟩

theorem exists_front : ∃ rest, p.front = 'v' :: rest := by
  unfold front
  cases p.keyword <;> exact ⟨_, rfl⟩

theorem trim_append (typed : List Char) : trim (p.lead ++ (p.front ++ ':' :: typed)) =
    trimStart p.lead ++ (p.front ++ ':' :: trimEnd typed) := by
  obtain ⟨rest, hrest⟩ := p.exists_front
  have hstart : trimStart (p.lead ++ (p.front ++ ':' :: typed)) =
      (trimStart p.lead ++ p.front) ++ ':' :: typed := by
    rw [hrest, List.cons_append, trimStart_append_cons (by decide)]
    simp
  rw [trim, hstart, trimEnd_append_cons (by decide), List.append_assoc]

/-- What stands in front of the keyword is passed over. -/
theorem match?_property_append {typed type : List Char}
    (htype : propertyType (trimEnd typed) = some type) :
    match? property (trim (p.lead ++ (p.front ++ ':' :: typed))) =
      some ⟨String.ofList p.name.text, String.ofList type⟩ := by
  obtain ⟨gap, hlead, hgap⟩ := exists_trimStart p.lead
  have hquiet : Quiet (trimStart p.lead) := by
    have h := p.lead_quiet
    rw [hlead] at h
    exact h.of_append_right (any_isWord_of_blank hgap)
  have hapart : ((trimStart p.lead).getLast?.or none).any isWord = false := by
    have h := p.lead_apart
    rw [hlead, List.getLast?_append] at h
    cases hlast : (trimStart p.lead).getLast? with
    | none => rfl
    | some c => rwa [hlast] at h
  have hstop : ∀ keyword : PropertyKeyword, ∀ c, (p.front ++ ':' :: trimEnd typed).head? = some c →
      c ∉ keyword.text.toList.tail ∧ isBlank c = false := by
    obtain ⟨rest, hrest⟩ := p.exists_front
    rw [hrest]
    rintro keyword c ⟨⟩
    cases keyword <;> decide
  have hplace : ∀ u v, trimStart p.lead = u ++ v → v ≠ [] →
      property (u.getLast?.or none) (v ++ (p.front ++ ':' :: trimEnd typed)) = none := by
    intro u v huv hv
    exact property_eq_none fun hu keyword => named_eq_none
      (not_startsWith_append hv (hquiet u v huv (by simpa using hu) keyword) (hstop keyword))
  obtain ⟨width, hfound⟩ := p.property_front hapart htype
  rw [p.trim_append, match?, matchFrom?_append_of_silent hplace, matchFrom?_of_some hfound]

theorem match?_property_text : match? property (trim p.text) = some p.declared.parameter := by
  rw [text_eq]
  exact p.match?_property_append (propertyType_typed p.declared p.no_equals)

theorem exists_match?_property_append (more : List Char) :
    ∃ parameter, match? property (trim (p.text ++ more)) = some parameter := by
  obtain ⟨type, htype⟩ := exists_propertyType_append p.declared p.no_equals more
  have htext : p.text ++ more = p.lead ++ (p.front ++ ':' :: (p.declared.typed ++ more)) := by
    simp [text_eq]
  exact ⟨_, by rw [htext]; exact p.match?_property_append htype⟩

theorem isPart_text : IsPart (· = ',') p.text :=
  p.lead_part.append (p.keyword.isPart_text.append p.declared.isPart_text)

end WrittenProperty

/-! ## Reading parameter lists -/

theorem ClassParameter.match?_property_text (p : ClassParameter) :
    match? Source.property (trim p.text) = p.property? := by
  cases p with
  | property p => exact p.match?_property_text
  | plain text _ quiet => exact match?_property_of_quiet quiet

theorem ClassParameter.isPart_text (p : ClassParameter) : IsPart (· = ',') p.text := by
  cases p with
  | property p => exact p.isPart_text
  | plain _ part _ => exact part

/-- The properties that are found in the text of a parameter list. -/
def propertiesIn (inside : List Char) : List Parameter :=
  (splitTopLevel (· = ',') inside).filterMap fun part => match? property (trim part)

namespace ClassList

variable (l : ClassList)

theorem isPart_of_mem : ∀ part ∈ l.parameters.map ClassParameter.text, IsPart (· = ',') part := by
  intro part hpart
  obtain ⟨p, -, rfl⟩ := List.mem_map.1 hpart
  exact p.isPart_text

/-- In a parameter list its properties are found, and nothing else. -/
theorem propertiesIn_inside : propertiesIn l.inside = l.properties := by
  by_cases hne : l.parameters = []
  · rw [inside, properties, classListText, hne]
    rfl
  · have hparts : l.parameters.map ClassParameter.text ≠ [] := by simpa using hne
    rw [propertiesIn, inside, classListText,
      splitTopLevel_intercalate (by decide) (by decide) _ hparts l.isPart_of_mem,
      List.filterMap_map, properties]
    exact List.filterMap_congr fun p _ => p.match?_property_text

/-- In a text that starts with a parameter list something is found where the list has a property: only
the last parameter runs on into what follows. -/
theorem propertiesIn_append_ne_nil (h : l.properties ≠ []) (more : List Char) :
    propertiesIn (l.inside ++ more) ≠ [] := by
  have hne : l.parameters ≠ [] := by
    rintro hnil
    exact h (by rw [properties, hnil]; rfl)
  obtain ⟨front, last, hlist⟩ : ∃ front last, l.parameters = front ++ [last] :=
    ⟨_, _, (List.dropLast_concat_getLast hne).symm⟩
  have hparts := l.isPart_of_mem
  rw [hlist, List.map_append, List.map_singleton] at hparts
  have hsep : decide (',' = ',') = true := by decide
  obtain ⟨behind, hsplit⟩ := splitFrom_intercalate hsep (by decide)
    (fun part hpart => hparts part (List.mem_append_left _ hpart)) (hparts last.text (by simp))
    none more
  obtain ⟨next, others, hnext⟩ :=
    List.exists_cons_of_ne_nil (splitFrom_ne_nil (· = ',') behind 0 more)
  rw [hnext, foldr_consFirst] at hsplit
  have hinside : l.inside = List.intercalate [','] (front.map ClassParameter.text ++ [last.text]) := by
    rw [inside, classListText, hlist, List.map_append, List.map_singleton]
  intro hnil
  rw [propertiesIn, splitTopLevel, hinside, hsplit, List.filterMap_eq_nil_iff] at hnil
  refine h (List.filterMap_eq_nil_iff.2 fun p hp => ?_)
  rw [hlist, List.mem_append, List.mem_singleton] at hp
  rcases hp with hp | rfl
  · rw [← p.match?_property_text]
    exact hnil p.text (List.mem_append_left _ (List.mem_map_of_mem hp))
  · cases p with
    | plain _ _ _ => rfl
    | property p =>
      obtain ⟨parameter, hfound⟩ := p.exists_match?_property_append next
      rw [hnil (p.text ++ next) (by simp [ClassParameter.text])] at hfound
      cases hfound

end ClassList

/-! ## Finding the list -/

theorem constructorList_eq_none {x : List Char} (h : named "class" isWord x = none) :
    constructorList x = none := by
  rw [constructorList, h]
  rfl

theorem constructorList_of_named {text name rest : List Char}
    (h : named "class" isWord text = some (name, rest)) :
    constructorList text = (afterMark? '(' rest).bind (upToBracket (afterMark? ':')) := by
  rw [constructorList, h]
  rfl

theorem constructorList_of_unended {x : List Char} (h : Unended x []) :
    constructorList x = none := by
  cases hnamed : named "class" isWord x with
  | none => exact constructorList_eq_none hnamed
  | some found =>
    obtain ⟨name, rest⟩ := found
    rw [constructorList_of_named hnamed, Option.bind_eq_none_iff]
    exact fun list hmark => h.list_eq_none (fun _ => afterMark?_eq_none) hnamed hmark

/-- Where no closing bracket has a colon behind it there are no dependencies. -/
theorem dependencies_of_unended {x : List Char} (h : Unended x []) : dependencies x = [] := by
  have hread : ∀ u v, x = u ++ v → v ≠ [] → constructorList (v ++ []) = none := by
    intro u v huv _
    rw [List.append_nil]
    rw [huv] at h
    exact constructorList_of_unended h.of_append
  have hnone := match?_append_of_silent hread
  rw [List.append_nil] at hnone
  rw [dependencies, hnone]
  rfl

namespace ClassSource

variable (c : ClassSource)

theorem named_fromClass : named "class" isWord c.fromClass = some (c.name.text, c.afterName) := by
  refine named_written "class" c.gap_ne c.name ?_
  unfold afterName
  cases hlist : c.list with
  | none => exact (c.no_list hlist).1
  | some l => exact head?_gap_mark l.before (by decide)

/-- What stands in front of the class is passed over by every reader that starts with the keyword. -/
theorem match?_text {α : Type} {read : List Char → Option (α × List Char)}
    (hread : ∀ x, named "class" isWord x = none → read x = none) :
    match? (.ofReader read) c.text = match? (.ofReader read) c.fromClass := by
  have hclass : ∀ d, c.fromClass.head? = some d → d ∉ "class".toList.tail ∧ isBlank d = false := by
    rintro d ⟨⟩
    decide
  exact match?_append_of_silent ((c.preamble_lacks.extend hclass).unnamed.imp fun _ => hread _)

theorem className_text : Source.className c.text = String.ofList c.name.text := by
  rw [Source.className, c.match?_text fun _ h => h, match?_ofReader_of_some c.named_fromClass]
  rfl

theorem constructorList_fromClass {l : ClassList} (hlist : c.list = some l) :
    constructorList c.fromClass = upToBracket (afterMark? ':') (l.inside ++ ')' :: c.behind) := by
  have hmark : afterMark? '(' c.afterName = some (l.inside ++ ')' :: c.behind) := by
    rw [afterName, hlist]
    exact afterMark?_append l.before.blank (by decide) _
  rw [constructorList_of_named c.named_fromClass, hmark, Option.bind_some]

/-- What is found behind the bracket of the parameter list, up to a bracket with a colon behind it. -/
theorem dependencies_text_of_list {l : ClassList} (hlist : c.list = some l) {inside rest : List Char}
    (h : l.inside ++ ')' :: c.behind = inside ++ ')' :: rest) (hinside : Unended inside (')' :: rest))
    (hcolon : (trimStart rest).head? = some ':') : dependencies c.text = propertiesIn inside := by
  obtain ⟨after, hafter⟩ : ∃ after, afterMark? ':' rest = some after := by
    cases htrim : trimStart rest with
    | nil => rw [htrim] at hcolon; cases hcolon
    | cons d after =>
      rw [htrim] at hcolon
      cases hcolon
      exact ⟨after, by rw [afterMark?, htrim]; rfl⟩
  have hfound : constructorList c.fromClass = some (inside, after) := by
    rw [c.constructorList_fromClass hlist, h,
      hinside.upToBracket_append (fun _ => afterMark?_eq_none), upToBracket_closer hafter]
    simp
  rw [dependencies, c.match?_text fun _ => constructorList_eq_none, match?_ofReader_of_some hfound]
  rfl

theorem dependencies_text : dependencies c.text = dependencies c.fromClass := by
  rw [dependencies, c.match?_text fun _ => constructorList_eq_none]
  rfl

/-- Without a parameter list the search goes on behind the keyword of the class. -/
theorem dependencies_text_of_no_list (hlist : c.list = none) :
    dependencies c.text = dependencies (c.name.text ++ c.behind) := by
  have hafter : c.afterName = c.behind := by rw [afterName, hlist]
  have hclass : constructorList c.fromClass = none := by
    rw [constructorList_of_named c.named_fromClass, hafter, afterMark?_eq_none (c.no_list hlist).2,
      Option.bind_none]
  have hassoc : c.fromClass = ("class".toList ++ c.gap.text) ++ (c.name.text ++ c.behind) := by
    rw [fromClass, hafter, List.append_assoc]
  have hmem : 'c' ∉ ['l', 'a', 's', 's'] ++ c.gap.text := by
    have hgap := not_mem_of_class c.gap.blank (by decide : isBlank 'c' = false)
    simp [hgap]
  have hbehind : Unnamed "class" (['l', 'a', 's', 's'] ++ c.gap.text) (c.name.text ++ c.behind) := by
    have hkeyword : "class".toList = ['c', 'l', 'a', 's', 's'] := rfl
    exact (lacks_of_not_mem hkeyword hmem).unnamed
  have hplace : AtEach (fun text => constructorList text = none) ("class".toList ++ c.gap.text)
      (c.name.text ++ c.behind) :=
    .cons (by rw [hassoc] at hclass; exact hclass) (hbehind.imp fun _ => constructorList_eq_none)
  rw [dependencies_text, dependencies, hassoc, match?_append_of_silent hplace]
  rfl

theorem unended_fromClass (h : Unended c.behind [])
    (hcolon : c.list = none ∨ ¬ c.ColonFollows) : Unended c.fromClass [] := by
  have hafter : Unended c.afterName [] := by
    unfold afterName
    cases hlist : c.list with
    | none => exact h
    | some l =>
      have hcolon : ¬ c.ColonFollows := hcolon.resolve_left (by simp [hlist])
      have hcloser : Unended (')' :: c.behind) [] := by
        refine ⟨fun _ => ?_, h⟩
        rwa [List.append_nil]
      have hinside : Unended l.inside (')' :: c.behind ++ []) :=
        l.unended.extend (head?_trimStart_cons (by decide) (by decide) _)
      exact (unended_gap l.before).append ((hinside.append hcloser).cons (by decide))
  exact (Unended.of_not_mem (by decide)).append
    ((unended_gap c.gap).append ((unended_name c.name).append hafter))

/-- Something is found where the list has a property and a closing bracket further on has a colon
behind it. -/
theorem dependencies_text_ne_nil {l : ClassList} (hlist : c.list = some l) (hcolon : ¬ c.ColonFollows)
    (h : ¬ Unended c.behind []) (hproperties : l.properties ≠ []) : dependencies c.text ≠ [] := by
  obtain ⟨passed, rest, hbehind, hpassed, hends⟩ := exists_of_not_unended h
  rw [List.append_nil] at hpassed hends
  have htext : l.inside ++ ')' :: c.behind = (l.inside ++ ')' :: passed) ++ ')' :: rest := by
    rw [hbehind]
    simp
  have hinside : Unended l.inside ((')' :: passed) ++ ')' :: rest) :=
    l.unended.extend (head?_trimStart_cons (by decide) (by decide) _)
  have hcloser : Unended (')' :: passed) (')' :: rest) := by
    refine ⟨fun _ => ?_, hpassed⟩
    rw [← hbehind]
    exact hcolon
  rw [c.dependencies_text_of_list hlist htext (hinside.append hcloser) hends]
  exact l.propertiesIn_append_ne_nil hproperties _

end ClassSource

/-- **What is found as the dependencies of a class.** Where a colon follows its parameter list, the
dependencies are the properties of the list. Else there should be none, and there are none where no
closing bracket further on has a colon behind it. But where one has, the search runs on to it: then the
dependencies of a class with a property are never empty, and those of a class without a list are the
ones of whatever follows its name. -/
theorem dependencies_of_class (c : ClassSource) :
    (descriptor (String.ofList c.text)).className = String.ofList c.name.text ∧
    (∀ l, c.list = some l → c.ColonFollows →
      (descriptor (String.ofList c.text)).dependencies = l.properties) ∧
    (c.list = none ∨ ¬ c.ColonFollows → Unended c.behind [] →
      (descriptor (String.ofList c.text)).dependencies = []) ∧
    (∀ l, c.list = some l → ¬ c.ColonFollows → l.properties ≠ [] →
      ((descriptor (String.ofList c.text)).dependencies = [] ↔ Unended c.behind [])) ∧
    (c.list = none → (descriptor (String.ofList c.text)).dependencies =
      dependencies (c.name.text ++ c.behind)) := by
  have hname : (descriptor (String.ofList c.text)).className = String.ofList c.name.text := by
    rw [descriptor, String.toList_ofList]
    exact c.className_text
  have hdependencies : (descriptor (String.ofList c.text)).dependencies = dependencies c.text := by
    rw [descriptor, String.toList_ofList]
  rw [hdependencies]
  have hnone : c.list = none ∨ ¬ c.ColonFollows → Unended c.behind [] → dependencies c.text = [] := by
    intro hcolon h
    rw [c.dependencies_text]
    exact dependencies_of_unended (c.unended_fromClass h hcolon)
  refine ⟨hname, ?_, hnone, ?_, c.dependencies_text_of_no_list⟩
  · intro l hlist hcolon
    have hinside : Unended l.inside (')' :: c.behind) :=
      l.unended.extend (head?_trimStart_cons (by decide) (by decide) _)
    rw [c.dependencies_text_of_list hlist rfl hinside hcolon, l.propertiesIn_inside]
  · intro l hlist hcolon hproperties
    refine ⟨fun hnil => ?_, hnone (.inr hcolon)⟩
    exact Classical.byContradiction fun h =>
      c.dependencies_text_ne_nil hlist hcolon h hproperties hnil

/-! ## A dependency that is none -/

/-- A class with one property, and what follows its parameter list. -/
def propertyClass (behind : List Char) : ClassSource where
  preamble := []
  preamble_lacks := atEach_nil
  gap := .space
  gap_ne := Gap.space_ne
  name := ⟨['A'], by decide, by decide⟩
  list := some {
    before := .empty
    parameters := [.property {
      lead := []
      lead_part := isPart_of_not_bracket (by decide) (by decide)
      lead_quiet := quiet_of_lacks fun _ => atEach_nil
      lead_apart := by decide
      keyword := .val
      declared := {
        before := .space
        name := ⟨['x'], .of_forall (by decide) (by decide), by decide⟩
        beforeColon := .empty
        afterColon := .space
        type := {
          text := ['X']
          tight := .of_forall (by decide) (by decide)
          part := isPart_of_not_bracket (by decide) (by decide) }
        after := .empty
        default := none }
      parted := Gap.space_ne
      name_word := by decide
      no_equals := by decide }]
    unended := .of_not_mem (by decide +kernel) }
  behind := behind
  no_list := nofun

/-- A class with a supertype has its property as dependency. -/
theorem dependencies_of_propertyClass :
    (propertyClass " : S \x7b\n    fun f(y: Y): Z\n\x7d\n".toList).ColonFollows ∧
    (descriptor (String.ofList
      (propertyClass " : S \x7b\n    fun f(y: Y): Z\n\x7d\n".toList).text)).dependencies =
      [⟨"x", "X"⟩] := by
  have hcolon : (propertyClass " : S \x7b\n    fun f(y: Y): Z\n\x7d\n".toList).ColonFollows := by
    decide
  exact ⟨hcolon, (dependencies_of_class (propertyClass _)).2.1 _ rfl hcolon⟩

/-- Without a supertype the class has none, but the search runs on to the bracket of its function, and
the type that is found is no type. -/
theorem propertyClass_misread :
    String.ofList (propertyClass " \x7b\n    fun f(y: Y): Z\n\x7d\n".toList).text =
      "class A(val x: X) \x7b\n    fun f(y: Y): Z\n\x7d\n" ∧
    ¬ (propertyClass " \x7b\n    fun f(y: Y): Z\n\x7d\n".toList).ColonFollows ∧
    (descriptor (String.ofList
      (propertyClass " \x7b\n    fun f(y: Y): Z\n\x7d\n".toList).text)).dependencies =
      [⟨"x", "X) \x7b\n    fun f(y: Y"⟩] := by
  refine ⟨by decide, by decide, by decide +kernel⟩

end Testsmith.Source
