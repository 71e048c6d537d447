import Testsmith.CommandLine.Grammar
import Testsmith.Text.Digit
import Testsmith.Text.Scan

/-!
# Tokens

What an argument is taken for before any is obeyed. Behind the mark `--` everything is a value. In
front of it an argument that starts with a hyphen is, in this order:

* the switch that it spells;
* with two hyphens, the switch that the part before its first `=` spells, or that this part is the
  start of, which is refused where there are several;
* with one hyphen, a cluster, if its first letter is that of a switch; an `=` right behind that letter
  says nothing more;
* a value where it writes a negative number or holds a space;
* unknown.
-/

namespace Testsmith.CommandLine

/-- What an argument is taken for. -/
inductive Token.Kind where
  | value
  /-- The mark that everything behind it is a value. -/
  | mark
  /-- A switch, and what is attached to it. -/
  | switch (s : Switch) (attached : Option String)
  /-- A short spelling of a switch, and what is attached to its letter. -/
  | cluster (s : Switch) (tail : List Char)
  | unknown
  deriving DecidableEq, Repr, Inhabited

/-- An argument and what it is taken for. -/
structure Token where
  text : String
  kind : Token.Kind
  deriving DecidableEq, Repr, Inhabited

open Text (isDecimal startsWith cutAt)

/-- The mark in front of values. -/
def valueMark : String := "--"

/-- A text with a final line end taken away. -/
def withoutFinalNewline (text : List Char) : List Char :=
  if text.getLast? = some '\n' then text.dropLast else text

/-- The text writes a negative number: a hyphen, digits, or a point with digits behind it. -/
def isNegativeNumber (text : List Char) : Bool :=
  match withoutFinalNewline text with
  | '-' :: number =>
    match number.dropWhile isDecimal with
    | [] => number ≠ []
    | '.' :: places => places ≠ [] && places.all isDecimal
    | _ => false
  | _ => false

/-- A text in front of its first `=`, and what is attached by it. -/
def splitAttached (arg : String) : String × Option String :=
  if arg.toList.contains '=' then
    let (before, behind) := cutAt '=' arg.toList
    (String.ofList before, some (String.ofList behind))
  else (arg, none)

namespace Level

/-- The switches that a text is the start of, with their spellings. -/
def abbreviated (l : Level) (start : String) : List (String × Switch) :=
  l.spellings.filter fun (spelling, _) => startsWith start spelling.toList

/-- The kind of an argument that spells no switch of the level. -/
def plain (arg : String) : Token.Kind :=
  if isNegativeNumber arg.toList || arg.toList.contains ' ' then .value else .unknown

/-- The kind of an argument with two hyphens in front. An error holds the spellings that it could
stand for. -/
def long (l : Level) (arg : String) : Except (List String) Token.Kind :=
  let (before, attached) := splitAttached arg
  match l.switch? before with
  | some s => .ok (.switch s attached)
  | none =>
    match l.abbreviated before with
    | [(_, s)] => .ok (.switch s attached)
    | [] => .ok (plain arg)
    | candidates => .error (candidates.map (·.1))

/-- The kind of an argument with one hyphen in front, a letter behind it, and more. -/
def short (l : Level) (arg : String) (letter : Char) (tail : List Char) : Token.Kind :=
  match l.switch? (String.ofList ['-', letter]) with
  | some s =>
    match tail with
    | [] => .switch s none
    | '=' :: tail => .cluster s tail
    | tail => .cluster s tail
  | none => plain arg

/-- The kind of an argument in front of the mark. -/
def kind (l : Level) (arg : String) : Except (List String) Token.Kind :=
  match arg.toList with
  | '-' :: '-' :: _ => l.long arg
  | '-' :: letter :: tail => .ok (l.short arg letter tail)
  | _ => .ok .value

/-- What arguments are taken for. An error holds an argument and the spellings it could stand for. -/
def tokens (l : Level) : List String → Except (String × List String) (List Token)
  | [] => .ok []
  | arg :: rest =>
    if arg = valueMark then .ok (⟨arg, .mark⟩ :: rest.map (⟨·, .value⟩))
    else match l.kind arg with
      | .ok kind => (l.tokens rest).map (⟨arg, kind⟩ :: ·)
      | .error candidates => .error (arg, candidates)

/-- No argument is lost: the tokens hold them in their order. -/
theorem map_text_of_tokens {l : Level} {args : List String} {ts : List Token}
    (h : l.tokens args = .ok ts) : ts.map (·.text) = args := by
  induction args generalizing ts with
  | nil => cases h; rfl
  | cons arg rest ih =>
    unfold tokens at h
    split at h
    · cases h
      simp [Function.comp_def]
    · split at h
      · cases hr : l.tokens rest with
        | error e => simp [hr, Except.map] at h
        | ok us =>
          simp only [hr, Except.map, Except.ok.injEq] at h
          subst h
          simp [ih hr]
      · cases h

end Level

end Testsmith.CommandLine
