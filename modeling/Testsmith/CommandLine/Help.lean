import Testsmith.CommandLine.Grammar

/-!
# Help texts

What each level says of itself. The help of a level starts with its usage, which stands alone in front
of a complaint.
-/

namespace Testsmith.CommandLine.Level

def usage : Level → String
  | .program =>
    "usage: testloop [-h] [--version] [--init] [-v] [--project-root PROJECT_ROOT]\n" ++
    "                \x7banalyze,generate-unit,generate-integration,validate\x7d ...\n"
  | .command .analyze =>
    "usage: testloop analyze [-h] [--analysis ANALYSIS] service_path\n"
  | .command (.generate .unit) =>
    "usage: testloop generate-unit [-h] [--analysis ANALYSIS]\n" ++
    "                              [--test-path TEST_PATH] [--no-validate]\n" ++
    "                              [--max-retries MAX_RETRIES]\n" ++
    "                              service_path\n"
  | .command (.generate .integration) =>
    "usage: testloop generate-integration [-h] [--analysis ANALYSIS]\n" ++
    "                                     [--test-path TEST_PATH] [--no-validate]\n" ++
    "                                     [--max-retries MAX_RETRIES]\n" ++
    "                                     service_path\n"
  | .command .validate =>
    "usage: testloop validate [-h] [--max-retries MAX_RETRIES] [--coverage]\n" ++
    "                         test_path\n"

/-- What the help of a level says behind its usage. -/
def details : Level → String
  | .program =>
    "Service test scaffolding with a compile/run/repair loop\n" ++
    "\n" ++
    "positional arguments:\n" ++
    "  \x7banalyze,generate-unit,generate-integration,validate\x7d\n" ++
    "    analyze             Extract methods and dependencies of a service\n" ++
    "    generate-unit       Generate and validate a unit test for a service\n" ++
    "    generate-integration\n" ++
    "                        Generate and validate an integration test\n" ++
    "    validate            Compile, run and auto-fix an existing test file\n" ++
    "\n" ++
    "options:\n" ++
    "  -h, --help            show this help message and exit\n" ++
    "  --version             show program's version number and exit\n" ++
    "  --init                Generate .testloop/testloop.toml from source defaults\n" ++
    "  -v, --verbose         Log debug output to stderr\n" ++
    "  --project-root PROJECT_ROOT\n" ++
    "                        Project root directory (default: current directory)\n"
  | .command .analyze =>
    "positional arguments:\n" ++
    "  service_path         Service source file relative to the project root\n" ++
    "\n" ++
    "options:\n" ++
    "  -h, --help           show this help message and exit\n" ++
    "  --analysis ANALYSIS  JSON file with symbol data from a static analyzer\n"
  | .command (.generate _) =>
    "positional arguments:\n" ++
    "  service_path          Service source file relative to the project root\n" ++
    "\n" ++
    "options:\n" ++
    "  -h, --help            show this help message and exit\n" ++
    "  --analysis ANALYSIS   JSON file with symbol data from a static analyzer\n" ++
    "  --test-path TEST_PATH\n" ++
    "                        Output path relative to the project root (default:\n" ++
    "                        mirrored test path)\n" ++
    "  --no-validate         Only write the test file, skip compile and run\n" ++
    "  --max-retries MAX_RETRIES\n" ++
    "                        Attempts per compile/run phase (default: [loop]\n" ++
    "                        max_retries, 3 unless configured)\n"
  | .command .validate =>
    "positional arguments:\n" ++
    "  test_path             Test file relative to the project root\n" ++
    "\n" ++
    "options:\n" ++
    "  -h, --help            show this help message and exit\n" ++
    "  --max-retries MAX_RETRIES\n" ++
    "                        Attempts per compile/run phase (default: [loop]\n" ++
    "                        max_retries, 3 unless configured)\n" ++
    "  --coverage            Generate a coverage report after a successful run\n"

def help (l : Level) : String := l.usage ++ "\n" ++ l.details

end Testsmith.CommandLine.Level
