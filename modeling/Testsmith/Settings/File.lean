import Testsmith.Session
import Testsmith.Settings.Defaults
import Testsmith.Toml.Document

/-!
# The settings file

A project keeps its settings in a file of its own directory. The sections of that file lie over the
defaults. A file that is no text, no TOML, or holds values that are refused is ignored as a whole, and
the defaults are taken; any other failure is one of the operation. Starting a settings file writes the
defaults and keeps what was there before beside it.
-/

namespace Testsmith.Settings

def directory (root : Path) : Path := root / ".testloop"

def file (root : Path) : Path := directory root / "testloop.toml"

/-- Where the settings file that was there before is kept. -/
def backupFile (root : Path) : Path := directory root / "testloop.toml.bak"

def ofJson (j : Json) : Except Failure Settings :=
  match read j with
  | .ok settings => .ok settings
  | .failed issues => .error (.invalid "ProjectConfig" issues)

/-- The settings that the text of a settings file gives. -/
def ofDocument (text : String) : Except Failure Settings :=
  match Toml.parse text with
  | .ok table => ofJson (overlay table)
  | .error .malformed => .error .unreadableSettings
  | .error (.tooManyDigits count) => .error (.tooManyDigits count)

def isIgnorable : Failure → Bool
  | .unreadableSettings => true
  | .notText => true
  | .invalid _ _ => true
  | _ => false

variable {σ : Type}

def load (root : Path) : Action σ Settings := do
  let path := file root
  let present ← Action.isFile path
  if !present then return default
  let found ← Action.attempt do
    let text ← Action.readText path
    Action.ofExcept (ofDocument text)
  match found with
  | .ok settings => return settings
  | .error failure =>
    if isIgnorable failure then
      Action.note (.ignored path failure)
      return default
    else throw failure

def copyFile (source target : Path) : Action σ Unit := do
  Action.writeBytes target (← Action.readBytes source)

/-- Writes the default settings file, keeping the one before; the path of the file is given. -/
def start (root : Path) : Action σ Path := do
  Action.makeDirectories (directory root)
  let present ← Action.hasEntry (file root)
  if present then copyFile (file root) (backupFile root)
  Action.writeText (file root) defaultDocument
  return file root

end Testsmith.Settings
