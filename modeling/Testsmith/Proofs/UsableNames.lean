import Testsmith.Extraction.Basic
import Testsmith.Proofs.ClassDependencies
import Testsmith.Proofs.ClassMethods
import Testsmith.Settings.Defaults

/-!
# Usable names and types

The names and types of a descriptor go into generated code, so none of them may be empty or have a blank
at an end. A piece of a signature is read without the blanks around it, and where it holds nothing but
blanks a fallback is read (`fills_orElse_trim`), so what is read of a signature is always usable, however
malformed it is. The patterns of a source take their names and return types from runs of characters none
of which is a blank. There is one gap: a property of a source is read as soon as one character stands
between its colon and an equals sign, and where all of them are blanks its type is empty. A dependency is
unusable in this case and in no other (`extracted_usable`).
-/

namespace Testsmith

open Text Signature Source

/-- The text is not empty, and no blank stands at an end. -/
def Usable (s : String) : Prop := Tight s.toList

theorem Text.Tight.usable {x : List Char} (h : Tight x) : Usable (String.ofList x) := by
  rwa [Usable, String.toList_ofList]

theorem usable_of_forall {x : List Char} (hne : x ≠ []) (h : ∀ c ∈ x, isBlank c = false) :
    Usable (String.ofList x) :=
  (Tight.of_forall hne h).usable

theorem usable_of_no_blank {s : String} (hne : s.toList ≠ []) (h : ∀ c ∈ s.toList, isBlank c = false) :
    Usable s :=
  Tight.of_forall hne h

theorem not_usable_empty : ¬ Usable "" := fun h => h.ne_nil rfl

/-! ## Signatures -/

namespace Signature

/-- A text is a piece of a signature without the blanks around it or, where the piece holds nothing but
blanks, a fallback. -/
inductive Fills (fallback : String) (piece : List Char) : String → Prop
  | missing (h : ∀ c ∈ piece, isBlank c = true) : Fills fallback piece fallback
  | found {before x after : List Char} (hpiece : piece = before ++ (x ++ after)) (hx : Tight x)
      (hbefore : ∀ c ∈ before, isBlank c = true) (hafter : ∀ c ∈ after, isBlank c = true) :
      Fills fallback piece (String.ofList x)

section Fills

variable {fallback s : String} {piece : List Char}

theorem fills_orElse_trim (fallback : String) (piece : List Char) :
    Fills fallback piece (orElse (trim piece) fallback) := by
  obtain ⟨before, after, hpiece, hbefore, hafter⟩ := exists_trim piece
  by_cases hne : trim piece = []
  · rw [orElse, if_pos hne]
    exact .missing (trim_eq_nil_iff.1 hne)
  · rw [orElse, if_neg hne]
    exact .found hpiece (tight_trim hne) hbefore hafter

theorem Fills.usable (h : Fills fallback piece s) (hfallback : Usable fallback) : Usable s := by
  cases h with
  | missing => exact hfallback
  | found _ hx _ _ => exact hx.usable

theorem Fills.eq_fallback (h : Fills fallback piece s) (hpiece : ∀ c ∈ piece, isBlank c = true) :
    s = fallback := by
  cases h with
  | missing => rfl
  | @found _ x _ htext hx _ _ =>
    obtain ⟨c, x, rfl⟩ := List.exists_cons_of_ne_nil hx.ne_nil
    have hc : isBlank c = true := hpiece c (by simp [htext])
    rw [hx.head c rfl] at hc
    cases hc

end Fills

/-- Nothing but blanks is written as the type of a parameter: between its first colon, if it has one, and
a default value. -/
def LacksType (text : List Char) : Prop :=
  ∀ front typed, text = front ++ ':' :: typed → ':' ∉ front →
    ∀ c ∈ beforeTopLevel (· = '=') typed, isBlank c = true

/-- Nothing but blanks is written as the return type of a signature. -/
inductive LacksReturnType (signature : List Char) : Prop
  | blank (h : ∀ c ∈ signature, isBlank c = true)
  | unclosed (hopen : '(' ∈ signature) (h : group? signature = none)
  | no_colon {inside after : List Char} (h : group? signature = some (inside, after))
      (hcolon : (trimStart after).head? ≠ some ':')
  | no_type {inside gap typed : List Char} (h : group? signature = some (inside, gap ++ ':' :: typed))
      (hgap : ∀ c ∈ gap, isBlank c = true) (htyped : ∀ c ∈ beforeBody typed, isBlank c = true)

/-! ### Parameters -/

theorem parameterOf_fills (fallback : String) (text : List Char) :
    Fills fallback (cutAt ':' text).1 (parameterOf fallback text).name ∧
      Fills anyType (beforeTopLevel (· = '=') (cutAt ':' text).2) (parameterOf fallback text).type :=
  ⟨fills_orElse_trim fallback _, fills_orElse_trim anyType _⟩

theorem usable_anyType : Usable anyType := usable_of_no_blank (by decide) (by decide)

theorem usable_parameterOf {fallback : String} (h : Usable fallback) (text : List Char) :
    Usable (parameterOf fallback text).name ∧ Usable (parameterOf fallback text).type := by
  obtain ⟨hname, htype⟩ := parameterOf_fills fallback text
  exact ⟨hname.usable h, htype.usable usable_anyType⟩

theorem usable_parameters (signature : String) :
    ∀ p ∈ parameters signature, Usable p.name ∧ Usable p.type := by
  have hfallback : Usable "param" := usable_of_no_blank (by decide) (by decide)
  intro p hp
  obtain ⟨text, -, rfl⟩ := List.mem_map.1 hp
  exact usable_parameterOf hfallback text

theorem usable_dependencies (signature : String) :
    ∀ p ∈ dependencies signature, Usable p.name ∧ Usable p.type := by
  have hfallback : Usable "dependency" := usable_of_no_blank (by decide) (by decide)
  intro p hp
  obtain ⟨text, -, rfl⟩ := List.mem_map.1 hp
  exact usable_parameterOf hfallback _

/-- A parameter without a type is of any type. -/
theorem type_of_lacksType {text : List Char} (h : LacksType text) (fallback : String) :
    (parameterOf fallback text).type = anyType := by
  obtain ⟨-, htype⟩ := parameterOf_fills fallback text
  apply htype.eq_fallback
  by_cases hcolon : ':' ∈ text
  · obtain ⟨front, typed, rfl, hfront⟩ := List.eq_append_cons_of_mem hcolon
    rw [cutAt_append hfront]
    exact h front typed rfl hfront
  · rw [cutAt_of_not_mem hcolon]
    intro c hc
    cases hc

/-! ### Return types -/

theorem usable_unitType : Usable unitType := usable_of_no_blank (by decide) (by decide)

theorem usable_returnType (signature : String) : Usable (returnType signature) := by
  have hfilled : ∀ piece, Usable (orElse (trim piece) unitType) :=
    fun piece => (fills_orElse_trim unitType piece).usable usable_unitType
  rw [returnType]
  split
  · split
    · apply hfilled
    · exact usable_unitType
  · split
    · exact usable_unitType
    · apply hfilled

/-- Without the blanks at its end a text has no longer type. -/
theorem prefix_beforeBody_trimEnd (typed : List Char) : beforeBody (trimEnd typed) <+: beforeBody typed := by
  obtain ⟨gap, hgap, -⟩ := exists_trimEnd typed
  have hprefix : trimEnd typed <+: typed := ⟨gap, hgap.symm⟩
  exact prefix_takeWhile (prefix_takeWhile hprefix)

/-- A signature without a return type returns nothing. -/
theorem returnType_of_lacks {signature : String} (h : LacksReturnType signature.toList) :
    returnType signature = unitType := by
  have hfilled : ∀ piece, (∀ c ∈ piece, isBlank c = true) → orElse (trim piece) unitType = unitType :=
    fun piece => (fills_orElse_trim unitType piece).eq_fallback
  rw [returnType]
  cases h with
  | blank h =>
    have hopen : '(' ∉ signature.toList := fun hmem => absurd (h '(' hmem) (by decide)
    rw [group?_of_not_mem hopen]
    simp [hopen, hfilled _ h]
  | unclosed hopen h =>
    rw [h]
    simp [hopen]
  | @no_colon inside after h hcolon =>
    rw [h]
    dsimp only
    split
    · next typed htrim =>
      obtain ⟨gap, hgap, -⟩ := exists_trimEnd (trimStart after)
      rw [trim] at htrim
      rw [hgap, htrim] at hcolon
      exact absurd rfl hcolon
    · rfl
  | @no_type inside gap typed h hgap htyped =>
    have htrim : trim (gap ++ ':' :: typed) = ':' :: trimEnd typed :=
      trim_append_cons (by decide) hgap typed
    rw [h]
    dsimp only
    rw [htrim]
    apply hfilled
    intro c hc
    exact htyped c ((prefix_beforeBody_trimEnd typed).mem hc)

end Signature

/-! ## Sources -/

namespace Source

/-- A property with nothing but blanks, and at least one, between its colon and an equals sign. -/
structure UntypedProperty where
  keyword : PropertyKeyword
  gap : Gap
  gap_ne : gap.text ≠ []
  name : Name
  beforeColon : Gap
  afterColon : Gap
  afterColon_ne : afterColon.text ≠ []
  behind : List Char

/-- The text of a property without a type, up to the end of its parameter. -/
def UntypedProperty.text (p : UntypedProperty) : List Char :=
  p.keyword.text.toList ++ (p.gap.text ++ (p.name.text ++ (p.beforeColon.text ++
    ':' :: (p.afterColon.text ++ '=' :: p.behind))))

/-- The first property that is read in a parameter has no type. -/
def Untyped (parameter : List Char) : Prop :=
  ∃ (front : List Char) (p : UntypedProperty), parameter = front ++ p.text ∧
    front.getLast?.any isWord = false ∧
    ∀ u v, front = u ++ v → v ≠ [] → property u.getLast? (v ++ p.text) = none

/-- A parameter in the list that is searched for dependencies is read as a property without a type. -/
def HasUntyped (source : List Char) : Prop :=
  ∃ inside, match? (.ofReader constructorList) source = some inside ∧
    ∃ part ∈ splitTopLevel (· = ',') inside, Untyped (trim part)

/-- The type that is read of a property without one is empty. -/
theorem match?_property_of_untyped {text : List Char} (h : Untyped text) :
    ∃ name, match? property text = some ⟨name, ""⟩ := by
  obtain ⟨front, p, rfl, hfront, hsilent⟩ := h
  have hnamed : named p.keyword.text isWord p.text = some (p.name.text, p.beforeColon.text ++
      ':' :: (p.afterColon.text ++ '=' :: p.behind)) :=
    named_written _ p.gap_ne p.name (head?_gap_mark p.beforeColon (by decide))
  have hmark : afterMark? ':' (p.beforeColon.text ++ ':' :: (p.afterColon.text ++ '=' :: p.behind)) =
      some (p.afterColon.text ++ '=' :: p.behind) :=
    afterMark?_append p.beforeColon.blank (by decide) _
  have htype : propertyType (p.afterColon.text ++ '=' :: p.behind) = some [] := by
    have hgap : '=' ∉ p.afterColon.text := not_mem_of_class p.afterColon.blank (by decide)
    rw [propertyType_append hgap p.afterColon_ne, p.afterColon.trim_text]
  have hplace : ∀ u v, front = u ++ v → v ≠ [] → property (u.getLast?.or none) (v ++ p.text) = none := by
    simpa only [Option.or_none] using hsilent
  have hread : property (front.getLast?.or none) p.text =
      some (⟨String.ofList p.name.text, String.ofList []⟩, p.text.length) := by
    rw [Option.or_none]
    exact property_of_named hfront hnamed hmark htype
  refine ⟨String.ofList p.name.text, ?_⟩
  rw [match?, matchFrom?_append_of_silent hplace, matchFrom?_of_some hread]

/-- Blanks are no type at the end of a trimmed parameter, as there are none. -/
theorem exists_equals_of_blank {front typed : List Char} (htight : Tight (front ++ typed))
    (hne : typed ≠ []) (hblank : ∀ c ∈ typed.takeWhile (· != '='), isBlank c = true) :
    ∃ behind, typed = typed.takeWhile (· != '=') ++ '=' :: behind := by
  have hsplit : typed = typed.takeWhile (· != '=') ++ typed.dropWhile (· != '=') :=
    List.takeWhile_append_dropWhile.symm
  cases hdrop : typed.dropWhile (· != '=') with
  | nil =>
    rw [hdrop, List.append_nil] at hsplit
    obtain ⟨c, hc⟩ := Option.ne_none_iff_exists'.1 (mt List.getLast?_eq_none_iff.1 hne)
    have hlast : (front ++ typed).getLast? = some c := by rw [List.getLast?_append, hc, Option.some_or]
    have hcblank : isBlank c = true := hblank c (hsplit ▸ List.mem_of_getLast? hc)
    rw [htight.last c hlast] at hcblank
    cases hcblank
  | cons d behind =>
    have hd := List.head?_dropWhile_not (· != '=') typed
    rw [hdrop] at hsplit hd
    have hequals : d = '=' := by simpa using hd
    rw [hequals] at hsplit
    exact ⟨behind, hsplit⟩

/-- What is read as a property in a trimmed parameter has a usable name, and a usable type where it has
one. -/
theorem usable_property {part : List Char} {p : Parameter} (h : match? property (trim part) = some p) :
    Usable p.name ∧ (Usable p.type ∨ p.type = "" ∧ Untyped (trim part)) := by
  obtain ⟨front, rest, width, hpart, hplace, hsilent⟩ := exists_of_match? h
  obtain ⟨hfront, keyword, name, afterName, typed, type, hnamed, hmark, htype, rfl⟩ :=
    exists_of_property hplace
  obtain ⟨gap, hrest, hgapne, hgap⟩ := exists_gap_of_named hnamed
  obtain ⟨beforeColon, hafterName, hbeforeColon⟩ := exists_of_afterMark? hmark
  obtain ⟨hnamene, hword⟩ := forall_of_named hnamed
  obtain ⟨htypedne, rfl⟩ := exists_of_propertyType htype
  refine ⟨usable_of_forall hnamene fun c hc => isBlank_of_isWord (hword c hc), ?_⟩
  by_cases hblank : trim (typed.takeWhile (· != '=')) = []
  · refine .inr ⟨by rw [hblank], front, ?_⟩
    have htight : Tight (trim part) := by
      apply tight_trim
      rw [hpart, hrest]
      simp [hnamene]
    have htext : trim part = (front ++ (keyword.text.toList ++ (gap ++ (name ++
        (beforeColon ++ [':']))))) ++ typed := by
      rw [hpart, hrest, hafterName]
      simp
    have htyped : typed ≠ [] := by
      rintro rfl
      exact htypedne rfl
    rw [trim_eq_nil_iff] at hblank
    obtain ⟨behind, hbehind⟩ := exists_equals_of_blank (htext ▸ htight) htyped hblank
    let p : UntypedProperty := {
      keyword := keyword
      gap := ⟨gap, List.all_eq_true.2 hgap⟩
      gap_ne := hgapne
      name := ⟨name, hnamene, List.all_eq_true.2 hword⟩
      beforeColon := ⟨beforeColon, List.all_eq_true.2 hbeforeColon⟩
      afterColon := ⟨typed.takeWhile (· != '='), List.all_eq_true.2 hblank⟩
      afterColon_ne := htypedne
      behind := behind }
    have hp : p.text = rest := by
      rw [hrest, hafterName]
      show keyword.text.toList ++ (gap ++ (name ++ (beforeColon ++
        ':' :: (typed.takeWhile (· != '=') ++ '=' :: behind)))) = _
      rw [← hbehind]
    refine ⟨p, by rw [hp, hpart], hfront, ?_⟩
    rw [hp]
    exact hsilent
  · exact .inl (tight_trim hblank).usable

theorem exists_part_of_dependency {source : List Char} {p : Parameter} (h : p ∈ dependencies source) :
    ∃ inside, match? (.ofReader constructorList) source = some inside ∧
      ∃ part ∈ splitTopLevel (· = ',') inside, match? property (trim part) = some p := by
  unfold dependencies at h
  split at h
  · cases h
  · next inside hinside =>
    obtain ⟨part, hpart, hread⟩ := List.mem_filterMap.1 h
    exact ⟨inside, hinside, part, hpart, hread⟩

/-- The dependencies of a source have usable names, and usable types but where a property has none. -/
theorem usable_dependency {source : List Char} {p : Parameter} (h : p ∈ dependencies source) :
    Usable p.name ∧ (Usable p.type ∨ p.type = "" ∧ HasUntyped source) := by
  obtain ⟨inside, hinside, part, hpart, hread⟩ := exists_part_of_dependency h
  obtain ⟨hname, htype | ⟨hempty, huntyped⟩⟩ := usable_property hread
  · exact ⟨hname, .inl htype⟩
  · exact ⟨hname, .inr ⟨hempty, inside, hinside, part, hpart, huntyped⟩⟩

/-- A property without a type is a dependency without one. -/
theorem exists_dependency_of_untyped {source : List Char} (h : HasUntyped source) :
    ∃ p ∈ dependencies source, p.type = "" := by
  obtain ⟨inside, hinside, part, hpart, huntyped⟩ := h
  obtain ⟨name, hread⟩ := match?_property_of_untyped huntyped
  refine ⟨⟨name, ""⟩, ?_, rfl⟩
  rw [dependencies, hinside]
  exact List.mem_filterMap.2 ⟨part, hpart, hread⟩

theorem usable_method {source : List Char} {m : Method} (h : m ∈ methods source) :
    Usable m.returnType ∧ ∀ p ∈ m.parameters, Usable p.name ∧ Usable p.type := by
  obtain ⟨front, rest, width, -, hplace⟩ := exists_of_mem_allMatches h
  obtain ⟨⟨_, behind⟩, hread, ⟨⟩⟩ := Option.map_eq_some_iff.1 hplace
  obtain ⟨name, afterName, inside, returned, -, hne, htype, rfl⟩ := exists_of_method hread
  exact ⟨usable_of_forall hne fun c hc => isBlank_of_isTypeChar (htype c hc), usable_parameters _⟩

end Source

/-! ## Descriptors -/

namespace Symbol

variable (settings : GenerationSettings) (sourcePath : String) (s : Symbol)

theorem usable_dependency : ∀ p ∈ (s.descriptor settings sourcePath).dependencies,
    Usable p.name ∧ Usable p.type := by
  intro p hp
  obtain ⟨c, -, hc⟩ := List.mem_flatMap.1 hp
  exact usable_dependencies _ p hc

theorem usable_method : ∀ m ∈ (s.descriptor settings sourcePath).methods,
    Usable m.returnType ∧ ∀ p ∈ m.parameters, Usable p.name ∧ Usable p.type := by
  intro m hm
  obtain ⟨c, -, rfl⟩ := List.mem_map.1 hm
  exact ⟨usable_returnType _, usable_parameters _⟩

end Symbol

/-- **The names and types of a descriptor are usable**, whatever it is extracted from: the return types
and parameters of its methods and the names of its dependencies always, and the types of its dependencies
but where the source has a property without a type, which is read as a dependency with an empty one. A
parameter of a signature that has no type is of any type, and a signature without a return type returns
nothing. -/
theorem extracted_usable (settings : GenerationSettings) (sourcePath : String) (symbols : Option Json)
    (source : String) :
    (∀ m ∈ (extract settings sourcePath symbols source).1.methods, Usable m.returnType ∧
      ∀ p ∈ m.parameters, Usable p.name ∧ Usable p.type) ∧
    (∀ p ∈ (extract settings sourcePath symbols source).1.dependencies, Usable p.name ∧
      (Usable p.type ∨ p.type = "")) ∧
    ((∀ p ∈ (extract settings sourcePath symbols source).1.dependencies, Usable p.type) ↔
      symbols ≠ none ∨ ¬ Source.HasUntyped source.toList) ∧
    (∀ fallback text, LacksType text → (parameterOf fallback text).type = "Any") ∧
    (∀ signature : String, LacksReturnType signature.toList → returnType signature = "Unit") := by
  have hdefaults : (∀ fallback text, LacksType text → (parameterOf fallback text).type = "Any") ∧
      (∀ signature : String, LacksReturnType signature.toList → returnType signature = "Unit") :=
    ⟨fun fallback text h => type_of_lacksType h fallback, fun signature h => returnType_of_lacks h⟩
  cases symbols with
  | some data =>
    have hdependencies := (Symbol.ofData data).usable_dependency settings sourcePath
    refine ⟨(Symbol.ofData data).usable_method settings sourcePath, ?_, ?_, hdefaults⟩
    · intro p hp
      obtain ⟨hname, htype⟩ := hdependencies p hp
      exact ⟨hname, .inl htype⟩
    · simp only [ne_eq, reduceCtorEq, not_false_eq_true, true_or, iff_true]
      exact fun p hp => (hdependencies p hp).2
  | none =>
    refine ⟨fun m hm => Source.usable_method hm, ?_, ?_, hdefaults⟩
    · intro p hp
      obtain ⟨hname, htype⟩ := Source.usable_dependency hp
      exact ⟨hname, htype.imp_right And.left⟩
    · simp only [ne_eq, not_true_eq_false, false_or]
      constructor
      · intro h huntyped
        obtain ⟨p, hp, hempty⟩ := Source.exists_dependency_of_untyped huntyped
        exact not_usable_empty (hempty ▸ h p hp)
      · intro h p hp
        obtain ⟨-, htype | ⟨-, huntyped⟩⟩ := Source.usable_dependency hp
        · exact htype
        · exact absurd huntyped h

/-- A property with a default value in the place of its type is a dependency with an empty type. -/
theorem blankType_extracted :
    (extract Settings.default.generation "A.kt" none "class A(val x: = 1) : B").1.dependencies =
      [⟨"x", ""⟩] ∧ ¬ Usable "" :=
  ⟨by decide +kernel, not_usable_empty⟩

end Testsmith
