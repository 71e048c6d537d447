import Testsmith.Text.Scan

/-!
# Paths

Paths as they are written, apart from any file system. A path is relative or starts at a root, and has
parts. Empty parts and the part `.` do not count, the part `..` does. Two slashes in front are a root
of their own; one slash, or more than two, are the plain root.
-/

namespace Testsmith

/-- Where a path starts. -/
inductive Path.Anchor where
  | relative
  | root
  | doubleRoot
  deriving DecidableEq, Repr, Inhabited

structure Path where
  anchor : Path.Anchor := .relative
  parts : List String := []
  deriving DecidableEq, Repr, Inhabited

namespace Path

/-- How an anchor is written. -/
def Anchor.text : Anchor → String
  | .relative => ""
  | .root => "/"
  | .doubleRoot => "//"

/-- The anchor of a written path: it depends on the slashes in front. -/
def anchorOf (written : List Char) : Anchor :=
  match (written.takeWhile (· == '/')).length with
  | 0 => .relative
  | 2 => .doubleRoot
  | _ => .root

def partsOf (written : List Char) : List (List Char) :=
  (Text.splitOn (· == '/') written).filter fun part => part ≠ [] && part ≠ ['.']

def ofText (s : String) : Path :=
  { anchor := anchorOf s.toList
    parts := (partsOf s.toList).map String.ofList }

/-- How a path is written. The relative path without parts is written as a point. -/
def text (p : Path) : String :=
  if p.anchor = .relative ∧ p.parts = [] then "."
  else p.anchor.text ++ String.intercalate "/" p.parts

instance : ToString Path := ⟨text⟩

def name (p : Path) : String := p.parts.getLastD ""

def parent (p : Path) : Path := { p with parts := p.parts.dropLast }

/-- The anchor, where it is a root, and the parts. -/
def components (p : Path) : List String :=
  if p.anchor = .relative then p.parts else p.anchor.text :: p.parts

/-- A path inside another one. A path with a root of its own stands for itself. -/
def join (p q : Path) : Path :=
  if q.anchor = .relative then { p with parts := p.parts ++ q.parts } else q

instance : HDiv Path String Path := ⟨fun p s => p.join (ofText s)⟩

/-! ## Stem and suffix -/

/-- A name before and from its last point. A point at either end of the name belongs to the stem, and
then there is no suffix. -/
def splitName (name : List Char) : List Char × List Char :=
  let behind := (name.reverse.takeWhile (· != '.')).length
  let cut := name.length - behind - 1
  if behind < name.length ∧ 0 < cut ∧ 0 < behind then (name.take cut, name.drop cut)
  else (name, [])

def stem (p : Path) : String := String.ofList (splitName p.name.toList).1

/-- The last point of the name and what follows it; empty where the point is at either end. -/
def suffix (p : Path) : String := String.ofList (splitName p.name.toList).2

/-- The path with another last part: none where there is no last part. -/
def withName? (p : Path) (name : String) : Option Path :=
  if p.parts = [] then none else some { p with parts := p.parts.dropLast ++ [name] }

example : (ofText "//a/./b//c.tar.kt").text = "//a/b/c.tar.kt" := by decide
example : (ofText "a/.kt").suffix = "" ∧ (ofText "a/b.").stem = "b." := by decide

end Path

end Testsmith
