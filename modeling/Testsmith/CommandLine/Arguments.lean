import Testsmith.CommandLine.Complaint
import Testsmith.CommandLine.Token
import Testsmith.Number.Numeral

/-!
# Arguments

What arguments ask for. Tokens are obeyed from left to right; of two values for one switch the later
one counts. The mark `--` is no value: attached to a switch that takes one, it leaves the switch blank.
Help and version end the reading at once, and so does the first thing that is wrong. The first value at
the level of the program is a command, which reads all that follows on its own level; there the first
value is the path that the command needs. What no level knows is refused at the end.
-/

namespace Testsmith.CommandLine

/-- What was given to a switch that takes a value. -/
inductive Given (α : Type) where
  | nothing
  /-- The mark, which is no value. -/
  | blank
  | value (a : α)
  deriving DecidableEq, Repr, Inhabited

def Given.toOption {α : Type} : Given α → Option α
  | .value a => some a
  | _ => none

/-- What arguments ask for. -/
structure Arguments where
  startsSettings : Bool := false
  projectRoot : Given String := .nothing
  symbolFile : Given String := .nothing
  testPath : Given String := .nothing
  validates : Bool := true
  maxRetries : Given Int := .nothing
  wantsCoverage : Bool := false
  /-- The operation, and the path that it needs. -/
  operation : Option (Operation × String) := none
  deriving DecidableEq, Repr, Inhabited

/-- What one level has found. -/
structure Found where
  arguments : Arguments := {}
  operand : Option String := none
  /-- What follows the name of a command. -/
  remainder : List String := []
  /-- What the level does not know. -/
  strays : List String := []
  deriving DecidableEq, Repr, Inhabited

/-- The integer that a text writes, with digits of any script. -/
def integerOf? (s : String) : Option Int :=
  let (negative, digits) := Numeral.sign (Numeral.withoutMargins s.toList)
  Numeral.grouped? Text.digitValue? digits >>= Numeral.signed? negative

namespace Level

def store (l : Level) (a : Arguments) (s : Switch) (value : String) : Except Stop Arguments :=
  match s with
  | .projectRoot => .ok { a with projectRoot := .value value }
  | .analysis => .ok { a with symbolFile := .value value }
  | .testPath => .ok { a with testPath := .value value }
  | .maxRetries =>
    match integerOf? value with
    | some n => .ok { a with maxRetries := .value n }
    | none => .error (.refused l (.notInteger s value))
  | _ => .ok a

def leaveBlank (a : Arguments) : Switch → Arguments
  | .projectRoot => { a with projectRoot := .blank }
  | .analysis => { a with symbolFile := .blank }
  | .testPath => { a with testPath := .blank }
  | .maxRetries => { a with maxRetries := .blank }
  | _ => a

/-- The arguments after a switch that takes no value. -/
def obey (l : Level) (a : Arguments) : Switch → Except Stop Arguments
  | .help => .error (.helped l)
  | .version => .error .versioned
  | .start => .ok { a with startsSettings := true }
  | .noValidate => .ok { a with validates := false }
  | .coverage => .ok { a with wantsCoverage := true }
  | _ => .ok a

/-- The arguments after a switch with a value attached. -/
def storeAttached (l : Level) (a : Arguments) (s : Switch) (attached : String) :
    Except Stop Arguments :=
  if s.takesValue then
    if attached = valueMark then .ok (leaveBlank a s) else l.store a s attached
  else .error (.refused l (.valueIgnored s attached))

/-- The switches of a cluster: a short one, and those of the letters attached to it. -/
def cluster (l : Level) (s : Switch) : List Char → Except Stop (List Switch)
  | [] => .error (.refused l (.valueIgnored s ""))
  | c :: rest =>
    match l.switch? (String.ofList ['-', c]) with
    | none => .error (.refused l (.valueIgnored s (String.ofList (c :: rest))))
    | some next => if rest = [] then .ok [s, next] else (l.cluster next rest).map (s :: ·)

/-- The arguments after a cluster. No switch of it is obeyed where one is refused. -/
def obeyCluster (l : Level) (a : Arguments) (s : Switch) (tail : List Char) :
    Except Stop Arguments := do
  (← l.cluster s tail).foldlM l.obey a

/-- What a level finds in its tokens. The operand of the program is a command, and what follows is left
to it. A mark next to any other operand belongs to that operand. -/
def find (l : Level) : List Token → Found → Except Stop Found
  | [], found => .ok found
  | ⟨_, .switch s none⟩ :: rest, found =>
    if s.takesValue then
      match rest with
      | ⟨text, .value⟩ :: rest =>
        match l.store found.arguments s text with
        | .ok arguments => l.find rest { found with arguments }
        | .error stop => .error stop
      | _ => .error (.refused l (.valueExpected s))
    else match l.obey found.arguments s with
      | .ok arguments => l.find rest { found with arguments }
      | .error stop => .error stop
  | ⟨_, .switch s (some attached)⟩ :: rest, found =>
    match l.storeAttached found.arguments s attached with
    | .ok arguments => l.find rest { found with arguments }
    | .error stop => .error stop
  | ⟨_, .cluster s tail⟩ :: rest, found =>
    match l.obeyCluster found.arguments s tail with
    | .ok arguments => l.find rest { found with arguments }
    | .error stop => .error stop
  | ⟨text, .unknown⟩ :: rest, found => l.find rest { found with strays := found.strays ++ [text] }
  | ⟨text, .value⟩ :: rest, found =>
    match found.operand, l with
    | some _, _ => l.find rest { found with strays := found.strays ++ [text] }
    | none, .program =>
      .ok { found with operand := some text, remainder := rest.map (·.text) }
    | none, .command _ =>
      match rest with
      | ⟨_, .mark⟩ :: rest => l.find rest { found with operand := some text }
      | rest => l.find rest { found with operand := some text }
  | ⟨text, .mark⟩ :: rest, found =>
    match found.operand, rest with
    | none, first :: rest =>
      match l with
      | .program =>
        .ok { found with operand := some text, remainder := (first :: rest).map (·.text) }
      | .command _ => l.find (first :: rest) found
    | _, rest => l.find rest { found with strays := found.strays ++ [text] }

def read (l : Level) (args : List String) (arguments : Arguments) : Except Stop Found :=
  match l.tokens args with
  | .ok tokens => l.find tokens { arguments }
  | .error (arg, candidates) => .error (.refused l (.ambiguous arg candidates))

end Level

def complete (arguments : Arguments) (strays : List String) : Except Stop Arguments :=
  if strays = [] then .ok arguments
  else .error (.refused .program (.unrecognized strays))

def Arguments.read (args : List String) : Except Stop Arguments := do
  let outer ← Level.program.read args {}
  match outer.operand with
  | none => complete outer.arguments outer.strays
  | some name =>
    match Operation.ofCommand? name with
    | none => .error (.refused .program (.unknownCommand name))
    | some op =>
      let level := Level.command op
      let inner ← level.read outer.remainder outer.arguments
      match inner.operand with
      | none => .error (.refused level .operandMissing)
      | some path =>
        complete { inner.arguments with operation := some (op, path) } (outer.strays ++ inner.strays)

end Testsmith.CommandLine
