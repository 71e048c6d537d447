import Testsmith.Extraction.Basic
import Testsmith.Settings.Defaults

/-!
# Classes among symbols

A class that is the only one of a file without members of its own is described by its own name and its
own members, whether the data are the file or the list of its symbols. Data that are the class itself give
the same unless the class looks like such a file: with one class inside it and no members, the class
inside is described in its place. `class_described` is the main statement.
-/

namespace Testsmith.Symbol

open Schema Checked

variable {s o n c : Symbol} {fields : Json.Fields} {items : List Json} {sourcePath name : String}
  {settings : GenerationSettings}

/-- A symbol has no methods and constructors, and one class. -/
structure Wraps (o n : Symbol) : Prop where
  noMembers : ∀ c ∈ o.children, (c.isMethod || c.isConstructor) = false
  onlyClass : o.children.filter isClass = [n]

/-- The name that a symbol is described with: its own, or that of the file where it has none. -/
def className (sourcePath : String) (s : Symbol) : String :=
  match s.name with
  | none | some "" => Layout.className sourcePath
  | some name => name

/-- What is said of the symbol itself: the methods among its children and the parameters of the
constructors among them, in order. -/
def description (settings : GenerationSettings) (sourcePath name : String) (s : Symbol) : Descriptor where
  package := Layout.packageOf sourcePath settings.sourceRootMarker settings.fallbackPackage
  className := name
  dependencies := (s.children.filter isConstructor).flatMap fun c =>
    Signature.dependencies (c.detail.getD "")
  methods := (s.children.filter isMethod).map method
  imports := []

theorem className_of_name (hname : n.name = some name) (hne : name ≠ "") :
    n.className sourcePath = name := by
  unfold className
  rw [hname]
  split
  · contradiction
  · next h => exact absurd (Option.some.inj h) hne
  · next h => exact (Option.some.inj h).symm

/-! ## The symbol that is described -/

theorem Wraps.classSymbol_eq (h : Wraps o n) : o.classSymbol = n := by
  have hany : (o.children.any fun c => c.isMethod || c.isConstructor) = false :=
    List.any_eq_false.2 fun c hc => by simp [h.noMembers c hc]
  rw [classSymbol, hany, h.onlyClass]
  rfl

theorem classSymbol_of_not_wraps (h : ∀ c, ¬ Wraps s c) : s.classSymbol = s := by
  unfold classSymbol
  split
  · rfl
  · next hany =>
    have hnone : ∀ c ∈ s.children, (c.isMethod || c.isConstructor) = false :=
      fun c hc => Bool.eq_false_iff.2 fun htrue => hany (List.any_eq_true.2 ⟨c, hc, htrue⟩)
    split
    · next c honly => exact absurd ⟨hnone, honly⟩ (h c)
    · rfl

theorem descriptor_eq (data : Symbol) : data.descriptor settings sourcePath =
    data.classSymbol.description settings sourcePath (data.classSymbol.className sourcePath) := rfl

theorem Wraps.descriptor_eq (h : Wraps o n) : o.descriptor settings sourcePath =
    n.description settings sourcePath (n.className sourcePath) := by
  rw [Symbol.descriptor_eq, h.classSymbol_eq]

/-! ## Data -/

/-- The children of a symbol are what is read of the list of its children. -/
theorem children_of_read (h : read (.obj fields) = .ok o)
    (hitems : fields.get? "children" = some (.arr items)) : o.children = readEach items := by
  rw [read] at h
  simp only [seq_eq_ok_iff, map_eq_ok_iff, under_eq_ok_iff] at h
  obtain ⟨_, children, ⟨_, _, ⟨_, _, ⟨_, _, rfl⟩, _, rfl⟩, _, rfl⟩, hchildren, rfl⟩ := h
  rw [readChildrenField_eq, hitems] at hchildren
  exact (Checked.ok.inj hchildren).symm

theorem ofData_of_read {j : Json} (h : read j = .ok s) : ofData j = s := by
  have hobj : ∃ fields, j = .obj fields := by
    cases j with
    | obj fields => exact ⟨fields, rfl⟩
    | null | bool | int | float | str | arr => rw [read] at h <;> cases h
  obtain ⟨fields, rfl⟩ := hobj
  show (read (.obj fields)).toOption.getD blank = s
  rw [h]
  rfl

theorem children_ofData_arr (items : List Json) : (ofData (.arr items)).children = readEach items := by
  have hread : read (.obj [("children", .arr items)]) = .ok (.node none none none (readEach items)) := rfl
  show ((read (.obj [("children", .arr items)])).toOption.getD blank).children = readEach items
  rw [hread]
  rfl

end Testsmith.Symbol

open Testsmith.Symbol

namespace Testsmith

/-- **A class describes itself, wrapped or not.** For the file that a class is alone in, and for the list
of the symbols of that file, the class is described. For the class itself it is described as well, unless
it wraps a class in its turn: then that one is. -/
theorem class_described (settings : GenerationSettings) (sourcePath source : String)
    {classData : Json} {fields : Json.Fields} {items : List Json} {n o : Symbol} {name : String}
    (hn : Symbol.read classData = .ok n) (hname : n.name = some name) (hne : name ≠ "")
    (ho : Symbol.read (.obj fields) = .ok o) (hitems : fields.get? "children" = some (.arr items))
    (hwraps : Wraps o n) :
    let described := (n.description settings sourcePath name, Fidelity.structured)
    extract settings sourcePath (some (.obj fields)) source = described ∧
    extract settings sourcePath (some (.arr items)) source = described ∧
    ((∀ c, ¬ Wraps n c) → extract settings sourcePath (some classData) source = described) ∧
    ∀ c, Wraps n c → extract settings sourcePath (some classData) source =
      (c.description settings sourcePath (c.className sourcePath), Fidelity.structured) := by
  intro described
  have hdata {data : Json} {d : Descriptor} (h : (ofData data).descriptor settings sourcePath = d) :
      extract settings sourcePath (some data) source = (d, .structured) := by
    subst h
    rfl
  have hlist : Wraps (ofData (.arr items)) n := by
    have hchildren : (ofData (.arr items)).children = o.children := by
      rw [children_ofData_arr, children_of_read ho hitems]
    exact ⟨hchildren ▸ hwraps.noMembers, hchildren ▸ hwraps.onlyClass⟩
  have hown : n.className sourcePath = name := className_of_name hname hne
  refine ⟨hdata ?_, hdata ?_, fun hnone => hdata ?_, fun c hc => hdata ?_⟩
  · rw [ofData_of_read ho, hwraps.descriptor_eq, hown]
  · rw [hlist.descriptor_eq, hown]
  · rw [ofData_of_read hn, Symbol.descriptor_eq, classSymbol_of_not_wraps hnone, hown]
  · rw [ofData_of_read hn, hc.descriptor_eq]

/-- The data of a class with these members. -/
def Symbol.classOf (name : String) (members : List Json) : Json :=
  .obj [("name", .str name), ("kind", .str "class"), ("children", .arr members)]

/-- A class with a class inside it and a method. -/
def Symbol.service : Json :=
  classOf "Service" [classOf "Companion" [],
    .obj [("name", .str "list"), ("kind", .int 6), ("detail", .str "(id: Id): Item")]]

def Symbol.serviceFile : Json := .obj [("name", .str "Service.kt"), ("children", .arr [service])]

def Symbol.serviceDescriptor : Descriptor where
  package := "com.example.domain"
  className := "Service"
  dependencies := []
  methods := [⟨"list", "Item", [⟨"id", "Id"⟩], false⟩]
  imports := []

/-- It is described by its method in all three ways, although there is one class in it. -/
theorem service_described :
    extract Settings.default.generation "Service.kt" (some serviceFile) "" =
        (serviceDescriptor, .structured) ∧
      extract Settings.default.generation "Service.kt" (some (.arr [service])) "" =
        (serviceDescriptor, .structured) ∧
      extract Settings.default.generation "Service.kt" (some service) "" =
        (serviceDescriptor, .structured) := by
  have hservice : Symbol.read service = .ok (.node "Service" (some (.tag "class")) none
      [.node "Companion" (some (.tag "class")) none [],
        .node "list" (some (.number 6)) "(id: Id): Item" []]) := rfl
  have hfile : Symbol.read serviceFile =
      .ok (.node "Service.kt" none none [.node "Service" (some (.tag "class")) none
        [.node "Companion" (some (.tag "class")) none [],
          .node "list" (some (.number 6)) "(id: Id): Item" []]]) := rfl
  have hdescribed := class_described Settings.default.generation "Service.kt" "" hservice rfl
    (by decide) hfile rfl ⟨List.forall_mem_singleton.2 rfl, rfl⟩
  obtain ⟨hoverview, hlist, hself, -⟩ := hdescribed
  have hown := hself fun c hc => by
    have hmethod := hc.noMembers _ (List.mem_cons_of_mem _ List.mem_cons_self)
    cases hmethod
  exact ⟨hoverview.trans rfl, hlist.trans rfl, hown.trans rfl⟩

/-- A class with nothing but a class inside it. -/
def Symbol.outerClass : Json := classOf "Outer" [classOf "Inner" []]

/-- Where the data are that class, the one inside is described, and where they are a list of it, the class
itself. -/
theorem nestedClass_described :
    (extract Settings.default.generation "Outer.kt" (some outerClass) "").1.className = "Inner" ∧
      (extract Settings.default.generation "Outer.kt" (some (.arr [outerClass])) "").1.className =
        "Outer" :=
  ⟨rfl, rfl⟩

end Testsmith
