/-!
# Scanning

Small readers over what is left of a text. A run reader takes the longest run of one class of
characters. A pattern looks at one place, knows the character before it, and gives a value and the
number of characters it covers; `matches?` takes the leftmost place where a pattern holds, and
`allMatches` the places that follow each other without overlap. Where the classes of neighbouring
runs are disjoint, taking the longest run loses no match, which is how the readers of this library
are built.
-/

namespace Testsmith.Text

/-! ## Runs -/

/-- The longest run of `p` in front, and what follows it. -/
def span (p : Char → Bool) (text : List Char) : List Char × List Char :=
  (text.takeWhile p, text.dropWhile p)

/-- The longest run of `p` in front, which must not be empty, and what follows it. -/
def span1? (p : Char → Bool) (text : List Char) : Option (List Char × List Char) :=
  match text.takeWhile p with
  | [] => none
  | run => some (run, text.dropWhile p)

/-- What follows a run of `p` that must not be empty. -/
def skip1? (p : Char → Bool) : List Char → Option (List Char)
  | [] => none
  | c :: rest => if p c then some (rest.dropWhile p) else none

def after? (word : String) (text : List Char) : Option (List Char) :=
  if word.toList.isPrefixOf text then some (text.drop word.toList.length) else none

def startsWith (word : String) (text : List Char) : Bool :=
  word.toList.isPrefixOf text

/-- A run and what follows it are the text. -/
theorem span1?_append {p : Char → Bool} {text run rest : List Char}
    (h : span1? p text = some (run, rest)) : run ++ rest = text := by
  unfold span1? at h
  split at h
  · cases h
  · cases h
    exact List.takeWhile_append_dropWhile

/-- A run is not empty, and all of it is of its class. -/
theorem forall_of_span1? {p : Char → Bool} {text run rest : List Char}
    (h : span1? p text = some (run, rest)) : run ≠ [] ∧ ∀ c ∈ run, p c = true := by
  unfold span1? at h
  split at h
  · cases h
  · next hne =>
    cases h
    exact ⟨hne, List.all_eq_true.1 List.all_takeWhile⟩

/-- What follows a run starts with no character of its class. -/
theorem head?_of_span1? {p : Char → Bool} {text run rest : List Char}
    (h : span1? p text = some (run, rest)) : ∀ c, rest.head? = some c → p c = false := by
  unfold span1? at h
  split at h
  · cases h
  · cases h
    intro c hc
    have := List.head?_dropWhile_not p text
    simpa [hc] using this

/-! ## Patterns -/

/-- A pattern sees the character before a place and the text from that place on. It gives a value
and how many characters it covers, at least one. -/
abbrev Pattern (α : Type) := Option Char → List Char → Option (α × Nat)

/-- A reader as a pattern: it covers what it does not leave. -/
def Pattern.ofReader {α : Type} (read : List Char → Option (α × List Char)) : Pattern α :=
  fun _ text => (read text).map fun (value, rest) => (value, text.length - rest.length)

/-- The value at the leftmost place where the pattern holds. -/
def matchFrom? {α : Type} (p : Pattern α) : Option Char → List Char → Option α
  | before, [] => (p before []).map (·.1)
  | before, c :: rest =>
    match p before (c :: rest) with
    | some (value, _) => some value
    | none => matchFrom? p (some c) rest

/-- The value at the leftmost place of a text where the pattern holds. -/
def match? {α : Type} (p : Pattern α) (text : List Char) : Option α := matchFrom? p none text

/-- The values of the matches that follow each other without overlap, from a place where the first
`covered` characters belong to the match before. -/
def matchesFrom {α : Type} (p : Pattern α) : Option Char → Nat → List Char → List α
  | _, _, [] => []
  | _, covered + 1, c :: rest => matchesFrom p (some c) covered rest
  | before, 0, c :: rest =>
    match p before (c :: rest) with
    | some (value, width) => value :: matchesFrom p (some c) (width - 1) rest
    | none => matchesFrom p (some c) 0 rest

/-- The values of all matches in a text, each starting where the one before has ended or later. -/
def allMatches {α : Type} (p : Pattern α) (text : List Char) : List α := matchesFrom p none 0 text

/-! ## Fixed texts -/

def occursIn (word : List Char) : List Char → Bool
  | [] => word.isEmpty
  | c :: rest => word.isPrefixOf (c :: rest) || occursIn word rest

/-- The text with the first occurrence of `word` replaced. -/
def replaceFirst (word new : List Char) : List Char → List Char
  | [] => []
  | c :: rest =>
    if word.isPrefixOf (c :: rest) then new ++ (c :: rest).drop word.length
    else c :: replaceFirst word new rest

/-- The text with the occurrences of a word replaced, from a place where the first `covered`
characters belong to the occurrence before. An occurrence counts only where `follows` accepts what
comes after it. -/
def replaceFrom (word new : List Char) (follows : List Char → Bool) : Nat → List Char → List Char
  | _, [] => []
  | covered + 1, _ :: rest => replaceFrom word new follows covered rest
  | 0, c :: rest =>
    if word.isPrefixOf (c :: rest) && follows ((c :: rest).drop word.length) then
      new ++ replaceFrom word new follows (word.length - 1) rest
    else c :: replaceFrom word new follows 0 rest

/-- The text with every occurrence of `word` replaced, from left to right and without overlap, where
`follows` accepts what comes after. -/
def replaceAll (word new : List Char) (follows : List Char → Bool) (text : List Char) :
    List Char :=
  replaceFrom word new follows 0 text

/-! ## Separators -/

/-- The parts of a text between the separators: one more part than there are separators. -/
def splitOn (isSep : Char → Bool) : List Char → List (List Char)
  | [] => [[]]
  | c :: rest =>
    if isSep c then [] :: splitOn isSep rest
    else match splitOn isSep rest with
      | [] => [[c]]
      | part :: parts => (c :: part) :: parts

theorem splitOn_ne_nil (isSep : Char → Bool) (text : List Char) : splitOn isSep text ≠ [] := by
  cases text with
  | nil => simp [splitOn]
  | cons c rest =>
    unfold splitOn
    split
    · simp
    · split <;> simp

theorem forall_mem_splitOn (isSep : Char → Bool) (text : List Char) :
    ∀ part ∈ splitOn isSep text, ∀ c ∈ part, isSep c = false := by
  induction text with
  | nil => simp [splitOn]
  | cons c rest ih =>
    unfold splitOn
    split
    · simpa using ih
    · next hc =>
      split
      · simpa using hc
      · next part parts h =>
        intro q hq d hd
        rcases List.mem_cons.1 hq with rfl | hq
        · rcases List.mem_cons.1 hd with rfl | hd
          · simpa using hc
          · exact ih part (h ▸ List.mem_cons_self ..) d hd
        · exact ih q (h ▸ List.mem_cons_of_mem _ hq) d hd

/-- What stands before the first `mark`, and what stands after it: all and nothing without one. -/
def cutAt (mark : Char) (text : List Char) : List Char × List Char :=
  (text.takeWhile (· != mark), (text.dropWhile (· != mark)).drop 1)

end Testsmith.Text
