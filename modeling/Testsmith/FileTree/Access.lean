import Testsmith.Failure
import Testsmith.FileTree.Basic

/-!
# Access to files

How a written path finds its entry, and what can be done there. A path is walked part by part from the
top or from the working directory. Every part is looked up in an existing directory, the part `..`
leads one level up, and a part of more than 255 bytes is refused where it is looked up. A path with
a null character is refused before it is walked. Failures name the path as it was written.
-/

namespace Testsmith.FileTree

/-- The most bytes that a part of a path can have. -/
def maxNameBytes : Nat := 255

/-- The most bytes that a path can have. -/
def maxPathBytes : Nat := 4095

def hasNull (p : Path) : Bool := p.parts.any fun part => part.toList.contains '\x00'

/-- The location that some parts lead to, from a location on. -/
def walk (t : FileTree) : Location → List String → Except Trouble Location
  | l, [] => .ok l
  | l, part :: rest =>
    match t.node? l with
    | none => .error .notFound
    | some (.file _) => .error .notDirectory
    | some .directory =>
      if part = ".." then walk t l.dropLast rest
      else if maxNameBytes < part.utf8ByteSize then .error .nameTooLong
      else walk t (l ++ [part]) rest

/-- The locations that parts lead through, from a location on. -/
def trail : Location → List String → List Location
  | l, [] => [l]
  | l, part :: rest => l :: trail (if part = ".." then l.dropLast else l ++ [part]) rest

def startOf (cwd : Location) (p : Path) : Location := if p.anchor = .relative then cwd else []

def locate (t : FileTree) (cwd : Location) (p : Path) : Except Trouble Location :=
  if maxPathBytes < p.text.utf8ByteSize then .error .nameTooLong
  else walk t (startOf cwd p) p.parts

def find (t : FileTree) (cwd : Location) (p : Path) : Except Trouble (Location × Option Node) :=
  (t.locate cwd p).map fun l => (l, t.node? l)

def refuse {α : Type} (p : Path) (trouble : Trouble) : Except Failure α :=
  .error (.system trouble p.text)

/-! ## Asking -/

/-- A question about what a path leads to. A path that cannot be walked leads to nothing, but one with
an overlong part cannot be asked about. -/
def ask (t : FileTree) (cwd : Location) (p : Path) (q : Node → Bool) : Except Failure Bool :=
  if hasNull p then .ok false
  else match t.find cwd p with
    | .ok (_, some n) => .ok (q n)
    | .ok (_, none) => .ok false
    | .error .nameTooLong => refuse p .nameTooLong
    | .error _ => .ok false

def isFile (t : FileTree) (cwd : Location) (p : Path) : Except Failure Bool :=
  t.ask cwd p fun n => n matches .file _

def isDirectory (t : FileTree) (cwd : Location) (p : Path) : Except Failure Bool :=
  t.ask cwd p fun n => n matches .directory

def hasEntry (t : FileTree) (cwd : Location) (p : Path) : Except Failure Bool :=
  t.ask cwd p fun _ => true

/-! ## Reading and writing -/

def read (t : FileTree) (cwd : Location) (p : Path) : Except Failure ByteArray :=
  if hasNull p then .error .nullInPath
  else match t.find cwd p with
    | .ok (_, some (.file content)) => .ok content
    | .ok (_, some .directory) => refuse p .isDirectory
    | .ok (_, none) => refuse p .notFound
    | .error trouble => refuse p trouble

/-- The tree with the bytes of a file replaced, or with a new file in an existing directory. -/
def write (t : FileTree) (cwd : Location) (p : Path) (content : ByteArray) :
    Except Failure FileTree :=
  if hasNull p then .error .nullInPath
  else match t.find cwd p with
    | .ok (_, some .directory) => refuse p .isDirectory
    | .ok (l, some (.file _)) => .ok (t.set l (.file content))
    | .ok (l, none) =>
      match t.node? l.dropLast with
      | some .directory => .ok (t.set l (.file content))
      | some (.file _) => refuse p .notDirectory
      | none => refuse p .notFound
    | .error trouble => refuse p trouble

/-! ## Making directories -/

def makeDirectory (t : FileTree) (cwd : Location) (p : Path) : Except Failure FileTree :=
  if hasNull p then .error .nullInPath
  else match t.find cwd p with
    | .ok (_, some _) => refuse p .alreadyExists
    | .ok (l, none) => .ok (t.set l .directory)
    | .error trouble => refuse p trouble

/-- A failure to make a directory is none where the directory is there. -/
def unlessDirectory (t : FileTree) (cwd : Location) (p : Path) (failure : Failure) :
    Except Failure Unit :=
  match t.isDirectory cwd p with
  | .ok true => .ok ()
  | .ok false => .error failure
  | .error failure => .error failure

/-- Makes the directory whose parts are given from the last one on, and those above it that are
missing. What was made stays where a further one fails. -/
def makeDirectoriesFrom (cwd : Location) (anchor : Path.Anchor) :
    List String → FileTree → Except Failure Unit × FileTree
  | parts, t =>
    let p : Path := { anchor, parts := parts.reverse }
    match t.makeDirectory cwd p with
    | .ok t => (.ok (), t)
    | .error (.system .notFound path) =>
      match parts with
      | [] => (.error (.system .notFound path), t)
      | _ :: above =>
        match makeDirectoriesFrom cwd anchor above t with
        | (.error failure, t) => (.error failure, t)
        | (.ok (), t) =>
          match t.makeDirectory cwd p with
          | .ok t => (.ok (), t)
          | .error (.system .notFound path) => (.error (.system .notFound path), t)
          | .error (.system trouble path) =>
            (t.unlessDirectory cwd p (.system trouble path), t)
          | .error failure => (.error failure, t)
    | .error (.system trouble path) => (t.unlessDirectory cwd p (.system trouble path), t)
    | .error failure => (.error failure, t)

/-- Makes a directory and those above it that are missing. -/
def makeDirectories (t : FileTree) (cwd : Location) (p : Path) :
    Except Failure Unit × FileTree :=
  makeDirectoriesFrom cwd p.anchor p.parts.reverse t

end Testsmith.FileTree
