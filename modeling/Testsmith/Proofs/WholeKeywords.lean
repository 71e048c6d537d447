import Testsmith.Proofs.ClassMethods

/-!
# Keywords in front of names

Where the names of a descriptor come from. A name is read behind a keyword and blanks, and it is read to
its end. Of a package and of a class it is the first place of a source that counts (`found_eq_iff`), and
each method has a place of its own, behind those of the methods before it (`forall₂_methods`).

No pattern looks at what stands in front of its keyword, so a longer word that ends with the keyword
names something, too: behind `package com.firstclass`, the next word is taken for the name of a class.
Names are taken behind whole keywords where the places that count are not hidden in this way
(`names_behind_keywords`).
-/

namespace Testsmith.Source

open Text Signature

/-! ## Places -/

/-- What starts with a keyword and names something: the keyword, blanks, a name of some characters, and
whatever follows its end. -/
structure Naming (keyword : String) (isName : Char → Bool) where
  gap : Gap
  gap_ne : gap.text ≠ []
  name : List Char
  name_ne : name ≠ []
  all_name : name.all isName = true
  behind : List Char
  apart : ∀ c, behind.head? = some c → isName c = false

section Naming

variable {keyword : String} {isName : Char → Bool}

namespace Naming

variable (n : Naming keyword isName)

def text : List Char := keyword.toList ++ (n.gap.text ++ (n.name ++ n.behind))

def word : String := String.ofList n.name

end Naming

/-- The place behind `front` is the first one of a source where the keyword names something. -/
def FirstNaming (source front : List Char) (n : Naming keyword isName) : Prop :=
  source = front ++ n.text ∧
    ∀ u v, front = u ++ v → v ≠ [] → ∀ other : Naming keyword isName, v ++ n.text ≠ other.text

/-- The name stands in a source behind the keyword, which is a whole word: no word character stands in
front of it. -/
def BehindWord (keyword : String) (isName : Char → Bool) (source : List Char) (name : String) : Prop :=
  ∃ (front : List Char) (n : Naming keyword isName), source = front ++ n.text ∧ n.word = name ∧
    front.getLast?.any isWord = false

/-- The first place of a source where the keyword names something is inside of a longer word. -/
def FirstHidden (keyword : String) (isName : Char → Bool) (source : List Char) : Prop :=
  ∃ (front : List Char) (n : Naming keyword isName), FirstNaming source front n ∧
    front.getLast?.any isWord = true

/-- A method is read of a source at the end of a longer word. -/
def MethodHidden (source : List Char) : Prop :=
  ∃ (front rest : List Char) (found : Method × List Char), source = front ++ rest ∧
    method rest = some found ∧ front.getLast?.any isWord = true

/-! ## Reading names -/

theorem exists_naming {text name rest : List Char} (h : named keyword isName text = some (name, rest)) :
    ∃ n : Naming keyword isName, text = n.text ∧ n.name = name := by
  obtain ⟨gap, htext, hgapne, hgap⟩ := exists_gap_of_named h
  obtain ⟨hne, hname⟩ := forall_of_named h
  let n : Naming keyword isName := {
    gap := ⟨gap, List.all_eq_true.2 hgap⟩
    gap_ne := hgapne
    name := name
    name_ne := hne
    all_name := List.all_eq_true.2 hname
    behind := rest
    apart := head?_of_named h }
  exact ⟨n, htext, rfl⟩

variable (hblank : ∀ c, isName c = true → isBlank c = false)

include hblank

theorem Naming.named_text (n : Naming keyword isName) :
    named keyword isName n.text = some (n.name, n.behind) := by
  have hname : ∀ c ∈ n.name, isName c = true := List.all_eq_true.1 n.all_name
  exact named_append n.gap.blank n.gap_ne hname n.name_ne
    (fun c hc => hblank c (hname c (List.mem_of_head? hc))) n.apart

theorem named_eq_none_iff {text : List Char} :
    named keyword isName text = none ↔ ∀ n : Naming keyword isName, text ≠ n.text := by
  constructor
  · rintro h n rfl
    rw [n.named_text hblank] at h
    cases h
  · intro h
    cases hnamed : named keyword isName text with
    | none => rfl
    | some found =>
      obtain ⟨n, htext, -⟩ := exists_naming hnamed
      exact absurd htext (h n)

theorem match?_named_eq_some_iff {source name : List Char} :
    match? (.ofReader (named keyword isName)) source = some name ↔
      ∃ (front : List Char) (n : Naming keyword isName), FirstNaming source front n ∧ n.name = name := by
  constructor
  · intro h
    obtain ⟨front, rest, width, hsource, hplace, hfront⟩ := exists_of_match? h
    obtain ⟨⟨_, behind⟩, hnamed, ⟨⟩⟩ := Option.map_eq_some_iff.1 hplace
    obtain ⟨n, rfl, hname⟩ := exists_naming hnamed
    refine ⟨front, n, ⟨hsource, fun u v huv hv => ?_⟩, hname⟩
    exact (named_eq_none_iff hblank).1 (Option.map_eq_none_iff.1 (hfront u v huv hv))
  · rintro ⟨front, n, ⟨rfl, hfront⟩, rfl⟩
    have hsilent : AtEach (fun text => named keyword isName text = none) front n.text :=
      fun u v huv hv => (named_eq_none_iff hblank).2 (hfront u v huv hv)
    rw [match?_append_of_silent hsilent, match?_ofReader_of_some (n.named_text hblank)]

/-- What is found is the name at the first place. -/
theorem found_eq_iff {source : List Char} {name : String} (hne : name ≠ "") :
    String.ofList ((match? (.ofReader (named keyword isName)) source).getD []) = name ↔
      ∃ (front : List Char) (n : Naming keyword isName), FirstNaming source front n ∧ n.word = name := by
  constructor
  · intro h
    cases hfound : match? (.ofReader (named keyword isName)) source with
    | none =>
      rw [hfound] at h
      exact absurd h.symm hne
    | some found =>
      rw [hfound] at h
      obtain ⟨front, n, hfirst, rfl⟩ := (match?_named_eq_some_iff hblank).1 hfound
      exact ⟨front, n, hfirst, h⟩
  · rintro ⟨front, n, hfirst, rfl⟩
    rw [(match?_named_eq_some_iff hblank).2 ⟨front, n, hfirst, rfl⟩]
    rfl

theorem found_behindWord {source : List Char} {name : String} (hne : name ≠ "")
    (h : String.ofList ((match? (.ofReader (named keyword isName)) source).getD []) = name)
    (hhidden : ¬ FirstHidden keyword isName source) : BehindWord keyword isName source name := by
  obtain ⟨front, n, hfirst, hword⟩ := (found_eq_iff hblank hne).1 h
  refine ⟨front, n, hfirst.1, hword, ?_⟩
  by_cases hfront : front.getLast?.any isWord = true
  · exact absurd ⟨front, n, hfirst, hfront⟩ hhidden
  · simpa using hfront

end Naming

/-- Each method is read at a place, and the places stand in the order of the methods. -/
theorem forall₂_methods (source : List Char) :
    ∃ fronts : List (List Char), fronts.Pairwise (·.length < ·.length) ∧
      List.Forall₂ (fun m front => ∃ (n : Naming "fun" isWord) (rest : List Char),
          source = front ++ n.text ∧ n.word = m.name ∧ method n.text = some (m, rest))
        (methods source) fronts := by
  obtain ⟨fronts, hordered, hplaces⟩ := forall₂_allMatches (.ofReader method) source
  refine ⟨fronts, hordered, hplaces.imp ?_⟩
  rintro m front ⟨here, width, rfl, hplace⟩
  obtain ⟨⟨_, rest⟩, hread, ⟨⟩⟩ := Option.map_eq_some_iff.1 hplace
  obtain ⟨name, afterName, inside, returned, hnamed, -, -, rfl⟩ := exists_of_method hread
  obtain ⟨n, rfl, rfl⟩ := exists_naming hnamed
  exact ⟨n, rest, rfl, rfl, hread⟩

theorem method_behindWord {source : List Char} {m : Method} (hm : m ∈ methods source)
    (hhidden : ¬ MethodHidden source) : BehindWord "fun" isWord source m.name := by
  obtain ⟨fronts, -, hplaces⟩ := forall₂_methods source
  obtain ⟨i, hi, rfl⟩ := List.getElem_of_mem hm
  obtain ⟨n, rest, hsource, hword, hread⟩ := hplaces.get hi (hplaces.length_eq ▸ hi)
  refine ⟨_, n, hsource, hword, ?_⟩
  by_cases hfront : (fronts.get ⟨i, hplaces.length_eq ▸ hi⟩).getLast?.any isWord = true
  · exact absurd ⟨_, n.text, _, hsource, hread, hfront⟩ hhidden
  · simpa using hfront

/-- **Names are taken behind keywords.** The package and the class are those of the first place where
their keyword names something, and the methods are read at places that stand in their order. The names
stand behind whole keywords where that first place is not the end of a longer word, and where no method
is read at such an end. -/
theorem names_behind_keywords (source : String) :
    (∀ name ≠ "", (descriptor source).package = name ↔
      ∃ (front : List Char) (n : Naming "package" isDotted),
        FirstNaming source.toList front n ∧ n.word = name) ∧
    (∀ name ≠ "", (descriptor source).className = name ↔
      ∃ (front : List Char) (n : Naming "class" isWord),
        FirstNaming source.toList front n ∧ n.word = name) ∧
    (∃ fronts : List (List Char), fronts.Pairwise (·.length < ·.length) ∧
      List.Forall₂ (fun m front => ∃ (n : Naming "fun" isWord) (rest : List Char),
          source.toList = front ++ n.text ∧ n.word = m.name ∧ method n.text = some (m, rest))
        (descriptor source).methods fronts) ∧
    (¬ FirstHidden "package" isDotted source.toList → (descriptor source).package ≠ "" →
      BehindWord "package" isDotted source.toList (descriptor source).package) ∧
    (¬ FirstHidden "class" isWord source.toList → (descriptor source).className ≠ "" →
      BehindWord "class" isWord source.toList (descriptor source).className) ∧
    (¬ MethodHidden source.toList → ∀ m ∈ (descriptor source).methods,
      BehindWord "fun" isWord source.toList m.name) := by
  have hdotted : ∀ c, isDotted c = true → isBlank c = false := fun c => isBlank_of_isDotted
  have hword : ∀ c, isWord c = true → isBlank c = false := fun c => isBlank_of_isWord
  refine ⟨?package, ?className, ?methods, ?wholePackage, ?wholeClass, ?wholeMethods⟩
  case package =>
    intro name hne
    exact found_eq_iff hdotted hne
  case className =>
    intro name hne
    exact found_eq_iff hword hne
  case methods => exact forall₂_methods source.toList
  case wholePackage =>
    intro hhidden hne
    exact found_behindWord hdotted hne rfl hhidden
  case wholeClass =>
    intro hhidden hne
    exact found_behindWord hword hne rfl hhidden
  case wholeMethods =>
    intro hhidden m hm
    exact method_behindWord hm hhidden

/-! ## A keyword that is hidden -/

/-- A source whose package ends with a keyword. -/
def hiddenClass : String := "package com.firstclass\nimport a.b\nclass Foo\n"

/-- The keyword of the next line is taken for the name of the class. -/
theorem hiddenClass_misread : (descriptor hiddenClass).className = "import" ∧
    ¬ BehindWord "class" isWord hiddenClass.toList "import" := by
  have hplaces : ∀ k ≤ hiddenClass.toList.length,
      (hiddenClass.toList.take k).getLast?.any isWord = false →
      (named "class" isWord (hiddenClass.toList.drop k)).map (·.1) ≠ some "import".toList := by
    decide +kernel
  refine ⟨by decide +kernel, ?_⟩
  rintro ⟨front, n, hsource, hword, hfront⟩
  have htake : hiddenClass.toList.take front.length = front := by rw [hsource, List.take_left]
  have hdrop : hiddenClass.toList.drop front.length = n.text := by rw [hsource, List.drop_left]
  have hlength : front.length ≤ hiddenClass.toList.length := by
    rw [hsource, List.length_append]
    exact Nat.le_add_right _ _
  have hname : n.name = "import".toList := by rw [← hword, Naming.word, String.toList_ofList]
  have hnamed := hplaces front.length hlength (by rwa [htake])
  rw [hdrop, n.named_text fun c => isBlank_of_isWord] at hnamed
  exact hnamed (congrArg some hname)

end Testsmith.Source
