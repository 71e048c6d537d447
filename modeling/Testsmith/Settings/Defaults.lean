import Testsmith.Settings.Basic
import Testsmith.Toml.Writer

/-!
# Default settings

The values of all keys where a project sets none, by section and in the order in which a settings file
lists them. Laying a document over the defaults replaces the keys that its sections name and adds
those that no default has, which reading ignores; a section that is no table takes the place of the
defaults and is refused by reading.
-/

namespace Testsmith.Settings

def defaultSections : List (String × Json.Fields) :=
  [("toolchain",
      [("wrapper", .str "./gradlew"),
        ("java_home", .str ""),
        ("compile_task", .str "compileTestKotlin"),
        ("test_task", .str "test"),
        ("coverage_task", .str "jacocoTestReport"),
        ("exclude_tasks", Json.ofTexts
          ["kaptKotlin", "kaptGenerateStubsKotlin", "kaptTestKotlin", "kaptGenerateStubsTestKotlin"]),
        ("timeout_seconds", .int 0)]),
    ("loop", [("max_retries", .int 3)]),
    ("generation",
      [("fallback_package", .str "com.example.domain"),
        ("fallback_module", .str "app"),
        ("source_root_marker", .str "kotlin"),
        ("report_imports", .int 10)])]

/-- A section of the defaults under the section of a document with the same name. -/
def overlaySection (overrides : Json.Fields) (section_ : String × Json.Fields) : String × Json :=
  (section_.1,
    match Json.Fields.get? overrides section_.1 with
    | none => .obj section_.2
    | some (.obj table) => .obj (Json.Fields.update section_.2 table)
    | some other => other)

def overlay (overrides : Json.Fields) : Json :=
  .obj (defaultSections.map (overlaySection overrides))

def default : Settings :=
  { tool :=
      { wrapper := "./gradlew"
        javaHome := ""
        compileTask := "compileTestKotlin"
        testTask := "test"
        coverageTask := "jacocoTestReport"
        excludedTasks :=
          ["kaptKotlin", "kaptGenerateStubsKotlin", "kaptTestKotlin", "kaptGenerateStubsTestKotlin"]
        timeoutSeconds := 0 }
    loop := { maxRetries := 3 }
    generation :=
      { fallbackPackage := "com.example.domain"
        fallbackModule := "app"
        sourceRootMarker := "kotlin"
        reportImports := 10 } }

theorem read_overlay_nil : read (overlay []) = .ok default := by decide +kernel

/-- The lines of a section in a settings file. -/
def sectionLines (section_ : String × Json.Fields) : List String :=
  s!"[{section_.1}]" :: section_.2.map fun (key, value) =>
    Toml.keyText key ++ " = " ++ (Toml.valueText value).toOption.getD ""

/-- The settings file that sets every key to its default. -/
def defaultDocument : String :=
  String.intercalate "\n\n" (defaultSections.map fun s => String.intercalate "\n" (sectionLines s))
    ++ "\n"

end Testsmith.Settings
