import Mathlib.Data.List.Nodup
import Testsmith.Extraction.Basic
import Testsmith.Proofs.ScaffoldLines
import Testsmith.Settings.Defaults

/-!
# What a scaffold declares

The mocks of a scaffold are named for the dependencies, and its cases for the public methods, with one
of two words behind the name (`Scaffold.mockNames_lines`, `Scaffold.caseNames_lines`). Nothing is named
anew: a name that comes twice is declared twice. So the cases of a scaffold have different names exactly
if no two public methods have the same name. The dependencies of a service are those of all its
constructors, and its mocks have different names exactly if no constructor, and no two of them, take two
parameters of the same name.
-/

namespace Testsmith

namespace Scaffold

open Text

variable {flavor : Flavor} {d : Descriptor} {line : String}

/-! ## Mocks -/

/-- The name of the mock that a line declares. -/
def mockName? (line : String) : Option String :=
  (between? "    private val " " = mockk()" line).map fun declared =>
    String.ofList (cutAt ':' declared.toList).1

theorem mockName?_mockLine {p : Parameter} (h : ':' ∉ p.name.toList) :
    mockName? (mockLine p) = some p.name := by
  have hline : mockLine p = "    private val " ++ (p.name ++ ": " ++ p.type) ++ " = mockk()" := by
    simp only [mockLine_eq, String.append_assoc]
  have hname : ∀ c ∈ p.name.toList, (c != ':') = true := fun c hc => bne_iff_ne.2 fun heq => h (heq ▸ hc)
  rw [mockName?, hline, between?_append, Option.map_some, cutAt, String.append_assoc,
    String.toList_append, List.takeWhile_append_of_pos hname, String.toList_append]
  simp

/-- The spy is no mock: its line ends in another bracket. -/
theorem mockName?_spyLine : mockName? (spyLine d) = none := by
  have hnone : between? "    private val " " = mockk()" (spyLine d) = none := by
    rw [Option.eq_none_iff_forall_ne_some]
    intro name hname
    have hends := congrArg (·.toList.getLast?) (eq_append_of_between? hname)
    simp [spyLine_eq, List.getLast?_cons] at hends
  rw [mockName?, hnone, Option.map_none]

/-- The names of the mocks stand in a scaffold in the order of the dependencies. -/
theorem mockNames_lines (h : ∀ p ∈ d.dependencies, ':' ∉ p.name.toList) :
    (lines flavor d).filterMap mockName? = d.dependencies.map (·.name) := by
  have hnone {line : String} (hnot : ¬ "    private val ".toList <+: line.toList) :
      mockName? line = none := by
    rw [mockName?, between?_of_not_prefix hnot, Option.map_none]
  have hunread : ∀ line, Unread line → mockName? line = none := fun line hline =>
    hnone (hline _ (by simp [readFronts]))
  have hmark : mockName? mark = none := hnone (by decide +kernel)
  have hcase (rest : String) : mockName? ("    fun `" ++ rest) = none :=
    hnone (Unlike.not_prefix_append (by decide +kernel) rest)
  have hmocks : d.dependencies.filterMap (fun p => mockName? (mockLine p)) =
      d.dependencies.map (·.name) := by
    rw [← List.filterMap_eq_map]
    exact List.filterMap_congr fun p hp => mockName?_mockLine (h p hp)
  simp [filterMap_lines hunread, hmocks, mockName?_spyLine, caseLine, String.append_assoc, hmark, hcase]

/-! ## Cases -/

theorem success_ne_error (x y : String) : x ++ "_success" ≠ y ++ "_error" := by
  intro h
  have hends := congrArg (·.toList.getLast?) h
  simp at hends

theorem disjoint_caseNames_iff {m n : Method} :
    (caseNames m).Disjoint (caseNames n) ↔ m.name ≠ n.name := by
  have hback {back : String} : m.name ++ back = n.name ++ back ↔ m.name = n.name := by
    rw [← String.toList_inj, String.toList_append, String.toList_append, List.append_left_inj,
      String.toList_inj]
  simp only [caseNames, List.disjoint_cons_left, List.mem_cons, hback, List.not_mem_nil, or_false,
    List.disjoint_nil_left, and_true, not_or, success_ne_error, (success_ne_error _ _).symm,
    not_false_eq_true, true_and, and_self]

/-- The cases of some methods have different names exactly if the methods have. -/
theorem nodup_caseNames_iff {methods : List Method} :
    (methods.flatMap caseNames).Nodup ↔ (methods.map (·.name)).Nodup := by
  have hown (m : Method) : (caseNames m).Nodup := by
    simp [caseNames]
  rw [List.nodup_flatMap, and_iff_right fun m _ => hown m]
  exact (List.Pairwise.iff fun _ _ => disjoint_caseNames_iff).trans List.pairwise_map.symm

end Scaffold

/-! ## Names that are extracted -/

section Extracted

open Text Signature

theorem mem_of_mem_trim {c : Char} {x : List Char} (h : c ∈ trim x) : c ∈ x := by
  unfold trim trimEnd trimStart at h
  rw [List.mem_reverse] at h
  have hstart := (List.dropWhile_suffix isBlank).subset h
  exact (List.dropWhile_suffix isBlank).subset (List.mem_reverse.1 hstart)

/-- The name of a parameter ends in front of the first colon. -/
theorem Signature.colon_not_mem_parameterOf {other : String} (h : ':' ∉ other.toList)
    (text : List Char) : ':' ∉ (parameterOf other text).name.toList := by
  unfold parameterOf orElse cutAt
  dsimp only
  split
  · exact h
  · rw [String.toList_ofList]
    intro hmem
    have hcolon := List.all_eq_true.1 List.all_takeWhile ':' (mem_of_mem_trim hmem)
    simp at hcolon

/-- The name of a property is a word. -/
theorem Source.isWord_of_property {before : Option Char} {text : List Char} {p : Parameter} {width : Nat}
    (h : Source.property before text = some (p, width)) : ∀ c ∈ p.name.toList, isWord c = true := by
  unfold Source.property at h
  split at h
  · cases h
  · obtain ⟨found, hfound, heq⟩ := Option.map_eq_some_iff.1 h
    obtain ⟨⟩ := heq
    have hnamed : ∃ keyword rest,
        Source.named keyword isWord text = some (found.1.name.toList, rest) := by
      rcases Option.or_eq_some_iff.1 hfound with hread | ⟨-, hread⟩
      all_goals
        obtain ⟨⟨name, rest⟩, hnamed, hread⟩ := Option.bind_eq_some_iff.1 hread
        obtain ⟨typed, -, hread⟩ := Option.bind_eq_some_iff.1 hread
        obtain ⟨type, -, hread⟩ := Option.bind_eq_some_iff.1 hread
        obtain ⟨⟩ := hread
        exact ⟨_, rest, by rw [String.toList_ofList]; exact hnamed⟩
    obtain ⟨keyword, rest, hnamed⟩ := hnamed
    obtain ⟨after, -, hnamed⟩ := Option.bind_eq_some_iff.1 hnamed
    obtain ⟨start, -, hspan⟩ := Option.bind_eq_some_iff.1 hnamed
    exact (forall_of_span1? hspan).2

/-- No dependency that is extracted has a colon in its name. -/
theorem colon_not_mem_extract (settings : GenerationSettings) (sourcePath : String)
    (symbols : Option Json) (source : String) :
    ∀ p ∈ (extract settings sourcePath symbols source).1.dependencies, ':' ∉ p.name.toList := by
  intro p hp
  cases symbols with
  | some data =>
    obtain ⟨c, -, hp⟩ := List.mem_flatMap.1 hp
    obtain ⟨text, -, rfl⟩ := List.mem_map.1 hp
    exact Signature.colon_not_mem_parameterOf (by decide) _
  | none =>
    change p ∈ Source.dependencies source.toList at hp
    unfold Source.dependencies at hp
    split at hp
    · cases hp
    · obtain ⟨part, -, hmatch⟩ := List.mem_filterMap.1 hp
      obtain ⟨x, rest, width, -, hproperty, -⟩ := exists_of_match? hmatch
      intro hmem
      have hword := Source.isWord_of_property hproperty ':' hmem
      exact absurd hword (by decide)

end Extracted

/-! ## Distinct declarations -/

namespace Scaffold

open Testsmith.Symbol (isConstructor)

/-- The names of the parameters of a constructor. -/
def parameterNames (c : Symbol) : List String :=
  (Signature.dependencies (c.detail.getD "")).map (·.name)

theorem names_of_symbols {settings : GenerationSettings} {sourcePath source : String} {data : Json} :
    (extract settings sourcePath (some data) source).1.dependencies.map (·.name) =
      ((Symbol.ofData data).classSymbol.children.filter isConstructor).flatMap parameterNames := by
  rw [extract, Symbol.descriptor, List.map_flatMap]
  rfl

/-- **What a scaffold declares has different names as far as the service has.** Whatever is extracted, the
mocks of its scaffold are named for the dependencies and the cases for the public methods, in order. So
the cases have different names if and only if the public methods have, and the mocks of a service that
is described by symbols if and only if no constructor has two parameters of one name, and no two
constructors share one. Names without line ends are declared in the lines of the text itself. -/
theorem declarations_distinct_iff (settings : GenerationSettings) (sourcePath : String)
    (symbols : Option Json) (source : String) (flavor : Flavor) :
    let d := (extract settings sourcePath symbols source).1
    let mocks := (lines flavor d).filterMap mockName?
    let cases := (lines flavor d).filterMap caseName?
    mocks = d.dependencies.map (·.name) ∧
      cases = d.publicMethods.flatMap (fun m => [m.name ++ "_success", m.name ++ "_error"]) ∧
      (cases.Nodup ↔ (d.publicMethods.map (·.name)).Nodup) ∧
      (∀ data, symbols = some data →
        let constructors := (Symbol.ofData data).classSymbol.children.filter isConstructor
        mocks.Nodup ↔ (∀ c ∈ constructors, (parameterNames c).Nodup) ∧
          constructors.Pairwise fun a b => ∀ name ∈ parameterNames a, name ∉ parameterNames b) ∧
      ((∀ filling ∈ fillings d, '\n' ∉ filling.toList) →
        linesOf (text flavor d) = lines flavor d ++ [""]) := by
  intro d mocks cases
  have hmocks : mocks = d.dependencies.map (·.name) :=
    mockNames_lines (colon_not_mem_extract settings sourcePath symbols source)
  have hcases : cases = d.publicMethods.flatMap caseNames := caseNames_lines
  refine ⟨hmocks, hcases, ?distinctCases, ?distinctMocks, linesOf_text⟩
  case distinctCases => rw [hcases, nodup_caseNames_iff]
  case distinctMocks =>
    rintro data rfl
    rw [hmocks, names_of_symbols, List.nodup_flatMap]
    exact and_congr_right' (List.Pairwise.iff fun _ _ => List.disjoint_left)

/-- The data of a class, by the details of its constructors and the names of its methods. -/
def dataOf (name : String) (constructors methods : List String) : Json :=
  .obj [("name", .str name), ("kind", .int 5), ("children", .arr (
    constructors.map (fun detail => .obj [("kind", .int 9), ("detail", .str detail)]) ++
      methods.map fun method => .obj [("name", .str method), ("kind", .int 6)]))]

/-- Two constructors that have no parameter in common, and two methods. -/
def orders : Json := dataOf "Orders" ["(val repo: Repo)", "(val clock: Clock)"] ["get", "put"]

theorem orders_declared :
    let d := (extract Settings.default.generation "Orders.kt" (some orders) "").1
    linesOf (text .unit d) = lines .unit d ++ [""] ∧ ((lines .unit d).filterMap mockName?).Nodup ∧
      ((lines .unit d).filterMap caseName?).Nodup := by
  obtain ⟨-, -, hcases, hmocks, hlines⟩ :=
    declarations_distinct_iff Settings.default.generation "Orders.kt" (some orders) "" .unit
  exact ⟨hlines (by decide +kernel), (hmocks orders rfl).2 (by decide +kernel),
    hcases.2 (by decide +kernel)⟩

/-- Two constructors with a parameter in common, and two methods of the same name. -/
def accounts : Json :=
  dataOf "Accounts" ["(val repo: Repo)", "(val repo: Repo, val clock: Clock)"] ["get", "get"]

def accountsDescriptor : Descriptor where
  package := "com.example.domain"
  className := "Accounts"
  dependencies := [⟨"repo", "Repo"⟩, ⟨"repo", "Repo"⟩, ⟨"clock", "Clock"⟩]
  methods := [⟨"get", "Unit", [], false⟩, ⟨"get", "Unit", [], false⟩]

/-- A mock and both cases of a method are declared twice. -/
theorem accounts_redeclared :
    let d := (extract Settings.default.generation "Accounts.kt" (some accounts) "").1
    let mocks := (linesOf (text .unit d)).filterMap mockName?
    let cases := (linesOf (text .unit d)).filterMap caseName?
    mocks = ["repo", "repo", "clock"] ∧ ¬ mocks.Nodup ∧
      cases = ["get_success", "get_error", "get_success", "get_error"] ∧ ¬ cases.Nodup := by
  have hextract : (extract Settings.default.generation "Accounts.kt" (some accounts) "").1 =
      accountsDescriptor := by decide +kernel
  have hlines : linesOf (text .unit accountsDescriptor) = lines .unit accountsDescriptor ++ [""] :=
    linesOf_text (by decide +kernel)
  have hmocks : (linesOf (text .unit accountsDescriptor)).filterMap mockName? =
      ["repo", "repo", "clock"] := by
    rw [hlines, List.filterMap_append, mockNames_lines (by decide +kernel)]
    decide
  have hcases : (linesOf (text .unit accountsDescriptor)).filterMap caseName? =
      ["get_success", "get_error", "get_success", "get_error"] := by
    rw [hlines, List.filterMap_append, caseNames_lines]
    decide
  dsimp only
  rw [hextract, hmocks, hcases]
  exact ⟨rfl, by decide, rfl, by decide⟩

end Scaffold

end Testsmith
