import Testsmith.Path.Basic
import Testsmith.Text.Word

/-!
# Source layout

What the place of a file says. Test sources have a tree of their own beside the main one: the first
`/main/` of a path becomes `/test/`, and the file's stem gets `Test` behind it. The build module is the
first segment of the path as it is written, and the package is the directories behind the source root's
marker.
-/

namespace Testsmith.Layout

open Text (isWord)

/-- The path with the first `/main/` replaced by `/test/`. -/
def inTestTree (servicePath : String) : Path :=
  Path.ofText (String.ofList
    (Text.replaceFirst "/main/".toList "/test/".toList servicePath.toList))

/-- The test file of a service file: an error, with the path, where that path has no name. -/
def testPath (servicePath : String) : Except Path String :=
  let p := inTestTree servicePath
  match p.withName? (p.stem ++ "Test" ++ p.suffix) with
  | some p => .ok p.text
  | none => .error p

/-- The build module of a path, or another one where the path does not start with a segment of word
characters and hyphens. -/
def moduleOf (path fallback : String) : String :=
  match Text.span1? (fun c => isWord c || c == '-') path.toList with
  | some (segment, '/' :: _) => String.ofList segment
  | _ => fallback

/-- The class that a source file is named for. -/
def className (path : String) : String := (Path.ofText path).stem

/-- The package of a source file: the directories behind the first one that is the marker. -/
def packageOf (path marker fallback : String) : String :=
  match ((Path.ofText path).parent.components.dropWhile (· != marker)).drop 1 with
  | [] => fallback
  | directories => String.intercalate "." directories

example : (testPath "m/src/main/kotlin/com/x/Foo.kt").toOption =
    some "m/src/test/kotlin/com/x/FooTest.kt" := by decide
example : moduleOf "app-1/src/Foo.kt" "x" = "app-1" ∧ moduleOf "./a/Foo.kt" "x" = "x" := by decide
example : packageOf "m/src/main/kotlin/com/x/Foo.kt" "kotlin" "y" = "com.x" := by decide

end Testsmith.Layout
