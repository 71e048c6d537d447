import Testsmith.Descriptor
import Testsmith.Text.Lowercase

/-!
# Scaffolds

The test class of a service, as lines. Every dependency becomes a mock, the service a spy over the
real class, and every public method gets two cases, one for success and one for an error, whose bodies
are left to be filled in. An integration scaffold differs from a unit scaffold in its imports and in
the annotations of its class.
-/

namespace Testsmith

/-- The kind of test that is scaffolded. -/
inductive Flavor where
  | unit
  | integration
  deriving DecidableEq, Repr, Inhabited

def Flavor.name : Flavor → String
  | .unit => "unit"
  | .integration => "integration"

def Flavor.ofName? (name : String) : Option Flavor :=
  [Flavor.unit, .integration].find? (·.name == name)

namespace Scaffold

/-- The cases of one method. -/
def casesPerMethod : Nat := 2

/-- The number of cases in the scaffold of a service. -/
def caseCount (d : Descriptor) : Nat := casesPerMethod * d.publicMethods.length

/-- The name of the property that holds a service: its class name with the first letter in lower
case. -/
def fieldName (className : String) : String :=
  match className.toList with
  | [] => ""
  | c :: rest => String.ofList (Text.lower c ++ rest)

def importLines : Flavor → List String
  | .unit =>
    ["import io.mockk.*",
      "import io.mockk.junit5.MockKExtension",
      "import org.junit.jupiter.api.*",
      "import org.junit.jupiter.api.Assertions.assertNotNull",
      "import org.junit.jupiter.api.extension.ExtendWith",
      "import org.springframework.context.annotation.Description"]
  | .integration =>
    ["import io.mockk.*",
      "import io.mockk.junit5.MockKExtension",
      "import org.junit.jupiter.api.*",
      "import org.junit.jupiter.api.Assertions.assertNotNull",
      "import org.junit.jupiter.api.extension.ExtendWith",
      "import org.springframework.boot.test.context.SpringBootTest",
      "import org.springframework.context.annotation.Description",
      "import org.springframework.test.context.TestConstructor"]

/-- The annotations of the test class of a flavor. -/
def annotationLines : Flavor → List String
  | .unit => ["@ExtendWith(MockKExtension::class)"]
  | .integration =>
    ["@SpringBootTest",
      "@Tag(\"integration\")",
      "@TestConstructor(autowireMode = TestConstructor.AutowireMode.ALL)",
      "@ExtendWith(MockKExtension::class)"]

def mockLine (p : Parameter) : String := s!"    private val {p.name}: {p.type} = mockk()"

/-- The argument that passes a mock to the service. -/
def argumentLine (p : Parameter) : String := s!"            {p.name} = {p.name},"

/-- The arguments of the service, or a note where it takes none. -/
def argumentLines : List Parameter → List String
  | [] => ["            // TODO: inject dependencies"]
  | dependencies => dependencies.map argumentLine

def spyLines (className field : String) (dependencies : List Parameter) : List String :=
  [s!"    private val {field}: {className} = spyk(", s!"        {className}("] ++
    argumentLines dependencies ++
    ["        ), recordPrivateCalls = true", "    )"]

def lifecycleLines : List String :=
  ["    @BeforeEach",
    "    fun setup() \x7b",
    "        MockKAnnotations.init(this)",
    "    \x7d",
    "",
    "    @AfterEach",
    "    fun afterTests() \x7b",
    "        unmockkAll()",
    "    \x7d"]

def successLines (field name : String) : List String :=
  ["",
    "    @Test",
    s!"    @Description(\"{name} - success case\")",
    s!"    fun `{name}_success`() \x7b",
    "        // Given",
    "        // TODO: set up mock behavior",
    "",
    "        // When",
    s!"        val result = {field}.{name}()",
    "",
    "        // Then",
    "        assertNotNull(result)",
    "    \x7d"]

def errorLines (field name : String) : List String :=
  ["",
    "    @Test",
    s!"    @Description(\"{name} - error case\")",
    s!"    fun `{name}_error`() \x7b",
    "        // Given",
    "        // TODO: set up error scenario",
    "",
    "        // When & Then",
    "        assertThrows<Exception> \x7b",
    s!"            {field}.{name}()",
    "        \x7d",
    "    \x7d"]

def caseLines (field : String) (m : Method) : List String :=
  successLines field m.name ++ errorLines field m.name

/-- The lines of the test class of a service. -/
def lines (flavor : Flavor) (d : Descriptor) : List String :=
  let field := fieldName d.className
  [s!"package {d.package}", ""] ++ importLines flavor ++ [""] ++ annotationLines flavor ++
    [s!"class {d.className}Test \x7b"] ++ d.dependencies.map mockLine ++ [""] ++
    spyLines d.className field d.dependencies ++ [""] ++ lifecycleLines ++
    d.publicMethods.flatMap (caseLines field) ++ ["\x7d"]

/-- Lines as a text: each with a line end. -/
def ofLines (lines : List String) : String := String.join (lines.map (· ++ "\n"))

def text (flavor : Flavor) (d : Descriptor) : String := ofLines (lines flavor d)

end Scaffold

end Testsmith
