import Testsmith.Json.Basic
import Testsmith.Number.Loose
import Testsmith.Schema.Issue

/-!
# Checked values

Reading typed values from JSON. A reading gives a value or all issues, in the order of the parts that
were read: putting readings together with `<*>` reads every part, also after one that failed.
Readings are lenient where no meaning is lost: whole floating point numbers and numerals are
integers, and a few words are truth values.
-/

namespace Testsmith.Schema

/-- A value, or what is wrong. -/
inductive Checked (α : Type) where
  | ok (value : α)
  | failed (issues : List Issue)
  deriving DecidableEq, Repr, Inhabited

namespace Checked

variable {α β : Type}

def map (f : α → β) : Checked α → Checked β
  | .ok value => .ok (f value)
  | .failed issues => .failed issues

/-- Puts two readings together; the issues of both are kept. -/
def seq (f : Checked (α → β)) (x : Unit → Checked α) : Checked β :=
  match f, x () with
  | .ok f, .ok value => .ok (f value)
  | .ok _, .failed issues => .failed issues
  | .failed issues, .ok _ => .failed issues
  | .failed issues, .failed more => .failed (issues ++ more)

instance : Functor Checked := ⟨map, fun value x => map (fun _ => value) x⟩

instance : Pure Checked := ⟨.ok⟩

instance : Seq Checked := ⟨seq⟩

def fail (problem : Problem) : Checked α := .failed [⟨[], problem⟩]

/-- A reading of a part, with its issues seen from outside. -/
def under (step : Place) : Checked α → Checked α
  | .ok value => .ok value
  | .failed issues => .failed (issues.map (·.inside step))

def toOption : Checked α → Option α
  | .ok value => some value
  | .failed _ => none

/-- A reading with a further condition on its value. -/
def require (problem : Problem) (p : α → Bool) : Checked α → Checked α
  | .ok value => if p value then .ok value else fail problem
  | .failed issues => .failed issues

/-! ### Readings that succeed -/

theorem map_eq_ok_iff {f : α → β} {x : Checked α} {b : β} :
    f <$> x = .ok b ↔ ∃ a, x = .ok a ∧ f a = b := by
  show map f x = .ok b ↔ _
  cases x <;> simp [map]

theorem seq_eq_ok_iff {f : Checked (α → β)} {x : Checked α} {b : β} :
    f <*> x = .ok b ↔ ∃ g a, f = .ok g ∧ x = .ok a ∧ g a = b := by
  show seq f (fun _ => x) = .ok b ↔ _
  cases f <;> cases x <;> simp [seq]

theorem under_eq_ok_iff {step : Place} {x : Checked α} {a : α} :
    x.under step = .ok a ↔ x = .ok a := by
  cases x <;> simp [under]

end Checked

/-- A reader of values. -/
abbrev Reader (α : Type) := Json → Checked α

/-! ## Scalars -/

def text : Reader String
  | .str s => .ok s
  | _ => .fail .notText

theorem text_eq_ok_iff {j : Json} {s : String} : text j = .ok s ↔ j = .str s := by
  cases j <;> simp [text, Checked.fail]

def integerOfText (s : String) : Checked Int :=
  match Numeral.loose s.toList with
  | .value n => .ok n
  | .tooLong => .fail .integerTooLarge
  | .unreadable => .fail .unreadableInteger

/-- An integer from a floating point number without fraction. -/
def integerOfFloat (x : Binary64) : Checked Int :=
  if !x.isFinite then .fail .notFinite
  else match x.toInt? with
    | none => .fail .hasFraction
    | some i => if i.natAbs < Nat.pow 2 63 then .ok i else .fail .integerTooLarge

def integer : Reader Int
  | .int i => .ok i
  | .bool b => .ok (if b then 1 else 0)
  | .float x => integerOfFloat x
  | .str s => integerOfText s
  | _ => .fail .notInteger

/-- An integer that is not less than a bound. -/
def natural (least : Nat) : Reader Nat := fun j =>
  (integer j |>.require (.lessThan least) (fun i => decide ((least : Int) ≤ i))).map Int.toNat

theorem natural_eq_ok_iff {least : Nat} {j : Json} {n : Nat} :
    natural least j = .ok n ↔ integer j = .ok n ∧ least ≤ n := by
  unfold natural
  cases integer j with
  | failed issues => simp [Checked.require, Checked.map]
  | ok i =>
    by_cases h : (least : Int) ≤ i
    · simp only [Checked.require, decide_eq_true h, if_true, Checked.map, Checked.ok.injEq]
      omega
    · simp only [Checked.require, decide_eq_false h, Bool.false_eq_true, if_false, Checked.fail,
        Checked.map, reduceCtorEq, Checked.ok.injEq, false_iff]
      omega

def boolWords : List (String × Bool) :=
  [("0", false), ("off", false), ("f", false), ("false", false), ("n", false), ("no", false),
    ("1", true), ("on", true), ("t", true), ("true", true), ("y", true), ("yes", true)]

def booleanOfInt (i : Int) : Checked Bool :=
  if i = 0 then .ok false else if i = 1 then .ok true else .fail .unreadableBool

/-- A truth value. A number that is no integer of 64 bits is none at all, and among the floating point
numbers the least of these integers is left out, too. -/
def boolean : Reader Bool
  | .bool b => .ok b
  | .int i => if -Int.pow 2 63 ≤ i ∧ i < Int.pow 2 63 then booleanOfInt i else .fail .notBool
  | .float x =>
    match x.toInt? with
    | some i => if i.natAbs < Nat.pow 2 63 then booleanOfInt i else .fail .notBool
    | none => .fail .notBool
  | .str s =>
    match boolWords.lookup (String.ofList (s.toList.map Char.toLower)) with
    | some b => .ok b
    | none => .fail .unreadableBool
  | _ => .fail .notBool

def oneOf {α : Type} (choices : List (String × α)) : Reader α := fun j =>
  let found := match j with
    | .str s => choices.lookup s
    | _ => none
  match found with
  | some value => .ok value
  | none => .fail (.notOneOf (choices.map (·.1)))

/-! ## Structures -/

def optional {α : Type} (read : Reader α) : Reader (Option α)
  | .null => .ok none
  | j => (read j).map some

/-- The items of a list from an index on. -/
def itemsFrom {α : Type} (read : Reader α) : Nat → List Json → Checked (List α)
  | _, [] => .ok []
  | i, item :: rest => List.cons <$> (read item).under (.index i) <*> itemsFrom read (i + 1) rest

def list {α : Type} (read : Reader α) : Reader (List α)
  | .arr items => itemsFrom read 0 items
  | _ => .fail .notList

theorem itemsFrom_text_eq_ok_iff {i : Nat} {items : List Json} {texts : List String} :
    itemsFrom text i items = .ok texts ↔ items = texts.map .str := by
  induction items generalizing i texts with
  | nil => cases texts <;> simp [itemsFrom]
  | cons item items ih =>
    rw [itemsFrom, Checked.seq_eq_ok_iff]
    constructor
    · rintro ⟨f, rest, hf, hrest, rfl⟩
      obtain ⟨s, hs, rfl⟩ := Checked.map_eq_ok_iff.1 hf
      rw [Checked.under_eq_ok_iff, text_eq_ok_iff] at hs
      rw [List.map_cons, hs, ih.1 hrest]
    · intro h
      cases texts with
      | nil => cases h
      | cons s texts =>
        rw [List.map_cons, List.cons.injEq] at h
        obtain ⟨rfl, rfl⟩ := h
        exact ⟨List.cons s, texts, Checked.map_eq_ok_iff.2 ⟨s, rfl, rfl⟩, ih.2 rfl, rfl⟩

theorem list_text_eq_ok_iff {j : Json} {texts : List String} :
    list text j = .ok texts ↔ j = Json.ofTexts texts := by
  cases j <;> simp [list, Json.ofTexts, itemsFrom_text_eq_ok_iff, Checked.fail]

/-- An object with any fields, kept as it is. -/
def anyObject : Reader Json
  | .obj fields => .ok (.obj fields)
  | _ => .fail .notObject

/-- A record of a name, read from the fields of an object. -/
def record {α : Type} (name : String) (read : Json.Fields → Checked α) : Reader α
  | .obj fields => read fields
  | _ => .fail (.notRecord name)

/-- A field under the first of its names that is present, with that name. -/
def field? (fields : Json.Fields) (name : String) (also : List String) : Option (String × Json) :=
  (name :: also).findSome? fun key => (fields.get? key).map (key, ·)

/-- A field that must be present, under its name or another one. The place of a problem is called by the
name under which the field was found, and by its own name where it is missing. -/
def required {α : Type} (fields : Json.Fields) (name : String) (read : Reader α)
    (also : List String := []) : Checked α :=
  match field? fields name also with
  | some (key, j) => (read j).under (.key key)
  | none => (Checked.fail .missing).under (.key name)

theorem required_eq_ok_iff {α : Type} {fields : Json.Fields} {name : String} {read : Reader α} {a : α} :
    required fields name read = .ok a ↔ ∃ j, fields.get? name = some j ∧ read j = .ok a := by
  cases h : fields.get? name with
  | none => simp [required, field?, h, Checked.fail, Checked.under]
  | some j => simp [required, field?, h, Checked.under_eq_ok_iff]

/-- A field that has a value where it is absent. -/
def withDefault {α : Type} (fields : Json.Fields) (name : String) (value : α) (read : Reader α)
    (also : List String := []) : Checked α :=
  match field? fields name also with
  | some (key, j) => (read j).under (.key key)
  | none => .ok value

end Testsmith.Schema
