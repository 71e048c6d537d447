import Testsmith.Proofs.WrittenPaths
import Testsmith.Scaffold

/-!
# Reading a scaffold

What can be read back from the text of a scaffold. The template and what is filled into it are kept
apart line by line (`Scaffold.Writes`): a line is one that every scaffold has, or a fixed text with a
name or a type in it. If nothing that is filled in has a line end, the lines of the text are those that
were written (`Scaffold.linesOf_text`), and each of them is told by how it starts, whatever is filled in.
So what a scaffold declares is read from its lines in order (`Scaffold.filterMap_lines`).
-/

namespace Testsmith.Scaffold

open Text

variable {flavor : Flavor} {d : Descriptor} {line : String}

/-! ## The lines of a text -/

/-- The lines of a text: what stands between its line ends, and behind the last one. -/
def linesOf (text : String) : List String :=
  (splitOn (· == '\n') text.toList).map String.ofList

theorem toList_ofLines_cons (line : String) (rest : List String) :
    (ofLines (line :: rest)).toList = line.toList ++ '\n' :: (ofLines rest).toList := by
  unfold ofLines
  rw [List.map_cons, String.join_cons, String.toList_append, String.toList_append, List.append_assoc]
  rfl

/-- Lines without line ends are read back from the text that they make. -/
theorem linesOf_ofLines {written : List String} (h : ∀ line ∈ written, '\n' ∉ line.toList) :
    linesOf (ofLines written) = written ++ [""] := by
  induction written with
  | nil => rfl
  | cons line rest ih =>
    obtain ⟨hline, hrest⟩ := List.forall_mem_cons.1 h
    have hsplit : splitOn (· == '\n') line.toList = [line.toList] :=
      splitOn_of_forall fun c hc => beq_false_of_ne fun heq => hline (heq ▸ hc)
    unfold linesOf at ih ⊢
    rw [toList_ofLines_cons, splitOn_append_cons rfl, hsplit, List.map_append, ih hrest,
      List.map_singleton, String.ofList_toList, List.singleton_append, List.cons_append]

/-! ## Template and fillings -/

/-- The line above every case. -/
def mark : String := "    @Test"

/-- The lines of the spy and of the cases into which nothing is filled, without the mark. -/
def bodyLines : List String :=
  ["", "            // TODO: inject dependencies", "        ), recordPrivateCalls = true", "    )",
    "        // Given", "        // TODO: set up mock behavior", "        // When", "        // Then",
    "        assertNotNull(result)", "        // TODO: set up error scenario",
    "        // When & Then", "        assertThrows<Exception> \x7b", "        \x7d", "    \x7d", "\x7d"]

/-- The lines into which nothing is filled, without the mark of a case. -/
def fixedLines (flavor : Flavor) : List String :=
  importLines flavor ++ annotationLines flavor ++ lifecycleLines ++ bodyLines

/-- What stands around the name of a method where nothing else is filled in. -/
def nameFrames : List (String × String) :=
  [("    @Description(\"", " - success case\")"), ("    @Description(\"", " - error case\")"),
    ("    fun `", "_success`() \x7b"), ("    fun `", "_error`() \x7b")]

/-- What stands in front of the call of a method. -/
def callFronts : List String := ["        val result = ", "            "]

/-- The texts around all else that is filled in. -/
def frames : List String :=
  ["package ", "class ", "Test \x7b", "        ", "(", "            ", " = ", ",",
    "    private val ", ": ", " = mockk()", " = spyk(", ".", "()"]

/-- The lines around the mocks, the spy and the cases, by what is filled into them. -/
inductive Surrounds (flavor : Flavor) (d : Descriptor) : String → Prop
  | fixed {line : String} (h : line ∈ fixedLines flavor) : Surrounds flavor d line
  | package : Surrounds flavor d ("package " ++ d.package)
  | header : Surrounds flavor d ("class " ++ d.className ++ "Test \x7b")
  | spied : Surrounds flavor d ("        " ++ d.className ++ "(")
  | argument {p : Parameter} (h : p ∈ d.dependencies) :
      Surrounds flavor d ("            " ++ p.name ++ " = " ++ p.name ++ ",")

/-- The line that declares the spy. -/
def spyLine (d : Descriptor) : String :=
  "    private val " ++ fieldName d.className ++ ": " ++ d.className ++ " = spyk("

/-- The lines of a scaffold, by what is filled into them. -/
inductive Writes (flavor : Flavor) (d : Descriptor) : String → Prop
  | around {line : String} (h : Surrounds flavor d line) : Writes flavor d line
  | mock {p : Parameter} (h : p ∈ d.dependencies) :
      Writes flavor d ("    private val " ++ p.name ++ ": " ++ p.type ++ " = mockk()")
  | spy : Writes flavor d (spyLine d)
  | mark : Writes flavor d mark
  | named {m : Method} (h : m ∈ d.publicMethods) {front back : String}
      (hframe : (front, back) ∈ nameFrames) : Writes flavor d (front ++ m.name ++ back)
  | called {m : Method} (h : m ∈ d.publicMethods) {front : String} (hfront : front ∈ callFronts) :
      Writes flavor d (front ++ fieldName d.className ++ "." ++ m.name ++ "()")

theorem mockLine_eq (p : Parameter) :
    mockLine p = "    private val " ++ p.name ++ ": " ++ p.type ++ " = mockk()" := rfl

theorem spyLine_eq (d : Descriptor) :
    spyLine d = "    private val " ++ fieldName d.className ++ ": " ++ d.className ++ " = spyk(" := rfl

/-- The lines above the mocks. -/
def linesAbove (flavor : Flavor) (d : Descriptor) : List String :=
  ["package " ++ d.package, ""] ++ importLines flavor ++ [""] ++ annotationLines flavor ++
    ["class " ++ d.className ++ "Test \x7b"]

/-- The lines between the one that declares the spy and the cases. -/
def linesBelow (d : Descriptor) : List String :=
  ["        " ++ d.className ++ "("] ++ argumentLines d.dependencies ++
    ["        ), recordPrivateCalls = true", "    )", ""] ++ lifecycleLines

theorem lines_eq : lines flavor d = linesAbove flavor d ++ d.dependencies.map mockLine ++
    ["", spyLine d] ++ linesBelow d ++ d.publicMethods.flatMap (caseLines (fieldName d.className)) ++
    ["\x7d"] := by
  simp only [lines, linesAbove, linesBelow, spyLines, spyLine_eq, toString, List.append_assoc,
    List.cons_append, List.nil_append]

theorem surrounds_of_mem_bodyLines (h : line ∈ bodyLines) : Surrounds flavor d line :=
  .fixed (List.mem_append_right _ h)

theorem surrounds_blank : Surrounds flavor d "" := surrounds_of_mem_bodyLines List.mem_cons_self

theorem surrounds_linesAbove : ∀ line ∈ linesAbove flavor d, Surrounds flavor d line := by
  simp only [linesAbove, List.forall_mem_append, List.forall_mem_cons, and_assoc]
  refine ⟨.package, surrounds_blank, List.forall_mem_nil _, ?imports, surrounds_blank,
    List.forall_mem_nil _, ?annotations, .header, List.forall_mem_nil _⟩
  case imports | annotations =>
    intro line hline
    exact .fixed (by simp [fixedLines, hline])

theorem surrounds_linesBelow (flavor : Flavor) (d : Descriptor) :
    ∀ line ∈ linesBelow d, Surrounds flavor d line := by
  simp only [linesBelow, List.forall_mem_append, List.forall_mem_cons, and_assoc]
  refine ⟨.spied, List.forall_mem_nil _, ?arguments, surrounds_of_mem_bodyLines (by simp [bodyLines]),
    surrounds_of_mem_bodyLines (by simp [bodyLines]), surrounds_blank, List.forall_mem_nil _, ?lifecycle⟩
  case arguments =>
    unfold argumentLines
    split
    · rw [List.forall_mem_singleton]
      exact surrounds_of_mem_bodyLines (by simp [bodyLines])
    · intro line hline
      obtain ⟨p, hp, rfl⟩ := List.mem_map.1 hline
      exact .argument hp
  case lifecycle =>
    intro line hline
    exact .fixed (by simp [fixedLines, hline])

theorem writes_of_mem_bodyLines (h : line ∈ bodyLines) : Writes flavor d line :=
  .around (surrounds_of_mem_bodyLines h)

theorem writes_caseLines {m : Method} (hm : m ∈ d.publicMethods) :
    ∀ line ∈ caseLines (fieldName d.className) m, Writes flavor d line := by
  have hbody : ∀ line ∈ bodyLines, Writes flavor d line := fun _ => writes_of_mem_bodyLines
  simp only [bodyLines, List.forall_mem_cons] at hbody
  simp only [caseLines, successLines, errorLines, List.forall_mem_append, List.forall_mem_cons,
    toString, hbody, true_and]
  exact ⟨⟨.mark, .named hm (by simp [nameFrames]), .named hm (by simp [nameFrames]),
      .called hm (by simp [callFronts]), List.forall_mem_nil _⟩,
    .mark, .named hm (by simp [nameFrames]), .named hm (by simp [nameFrames]),
    .called hm (by simp [callFronts]), List.forall_mem_nil _⟩

/-- Every line of a scaffold is one of the template, filled in. -/
theorem writes_of_mem_lines : ∀ line ∈ lines flavor d, Writes flavor d line := by
  simp only [lines_eq, List.forall_mem_append, List.forall_mem_cons, and_assoc]
  refine ⟨fun line hline => .around (surrounds_linesAbove line hline), ?mocks, .around surrounds_blank,
    .spy, List.forall_mem_nil _, fun line hline => .around (surrounds_linesBelow flavor d line hline), ?cases,
    writes_of_mem_bodyLines (by simp [bodyLines]), List.forall_mem_nil _⟩
  case mocks =>
    intro line hline
    obtain ⟨p, hp, rfl⟩ := List.mem_map.1 hline
    exact .mock hp
  case cases =>
    intro line hline
    obtain ⟨m, hm, hline⟩ := List.mem_flatMap.1 hline
    exact writes_caseLines hm line hline

/-! ## One line each -/

/-- What is filled into the template: the package, the class, the dependencies and the public methods. -/
def fillings (d : Descriptor) : List String :=
  d.package :: d.className :: d.dependencies.flatMap (fun p => [p.name, p.type]) ++
    d.publicMethods.map (·.name)

/-- The characters that end lines. -/
def lineEnds : List Char := ['\n', '\r']

/-- What is no small letter and not in a class name is not in the name of its field either. -/
theorem not_mem_fieldName {className : String} {c : Char} (hpos : 0 < c.toNat) (hlt : c.toNat < 97)
    (h : c ∉ className.toList) : c ∉ (fieldName className).toList := by
  unfold fieldName
  split
  · exact List.not_mem_nil
  · next first rest heq =>
    rw [heq, List.mem_cons, not_or] at h
    rw [String.toList_ofList, List.mem_append, not_or]
    exact ⟨fun hmem => h.1 (eq_of_mem_lower hmem hpos hlt), h.2⟩

theorem lineEnds_bounds : ∀ c ∈ lineEnds, 0 < c.toNat ∧ c.toNat < 97 := by decide

theorem lineEnds_not_mem_fixedLines (flavor : Flavor) :
    ∀ line ∈ fixedLines flavor, ∀ c ∈ lineEnds, c ∉ line.toList := by
  cases flavor <;>
    simp only [fixedLines, importLines, annotationLines, lifecycleLines, bodyLines,
      List.forall_mem_append, List.forall_mem_cons] <;>
    and_intros
  -- rewritten, a literal need not be decoded
  all_goals first
    | exact List.forall_mem_nil _
    | rw [String.toList_ofList]; decide

theorem lineEnds_not_mem_frames : ∀ c ∈ lineEnds, ∀ frame ∈ frames, c ∉ frame.toList := by
  decide +kernel

theorem lineEnds_not_mem_nameFrames :
    ∀ c ∈ lineEnds, ∀ frame ∈ nameFrames, c ∉ frame.1.toList ∧ c ∉ frame.2.toList := by
  decide +kernel

theorem lineEnds_not_mem_callFronts : ∀ c ∈ lineEnds, ∀ front ∈ callFronts, c ∉ front.toList := by
  decide +kernel

theorem not_mem_toList_append {x y : String} {c : Char} :
    c ∉ (x ++ y).toList ↔ c ∉ x.toList ∧ c ∉ y.toList := by
  rw [String.toList_append, List.mem_append, not_or]

/-- No line has a line end in it that nothing has which is filled in. -/
theorem Writes.not_mem (hwrites : Writes flavor d line) {c : Char} (hc : c ∈ lineEnds)
    (h : ∀ filling ∈ fillings d, c ∉ filling.toList) : c ∉ line.toList := by
  simp only [fillings, List.cons_append, List.forall_mem_cons, List.forall_mem_append,
    List.forall_mem_flatMap, List.forall_mem_map] at h
  obtain ⟨hpackage, hclass, hdependencies, hmethods⟩ := h
  have hfield := not_mem_fieldName (lineEnds_bounds c hc).1 (lineEnds_bounds c hc).2 hclass
  have hframes := lineEnds_not_mem_frames c hc
  simp only [frames, List.forall_mem_cons] at hframes
  cases hwrites with
  | around h =>
    cases h with
    | fixed h => exact lineEnds_not_mem_fixedLines flavor line h c hc
    | package => simp only [not_mem_toList_append, hpackage, hframes, not_false_eq_true, and_self]
    | header => simp only [not_mem_toList_append, hclass, hframes, not_false_eq_true, and_self]
    | spied => simp only [not_mem_toList_append, hclass, hframes, not_false_eq_true, and_self]
    | argument h =>
      simp only [not_mem_toList_append, hdependencies _ h, hframes, not_false_eq_true, and_self]
  | mock h =>
    simp only [not_mem_toList_append, hdependencies _ h, hframes, not_false_eq_true, and_self]
  | spy =>
    simp only [spyLine_eq, not_mem_toList_append, hclass, hfield, hframes, not_false_eq_true, and_self]
  | mark =>
    have hmark : ∀ c ∈ lineEnds, c ∉ Scaffold.mark.toList := by decide +kernel
    exact hmark c hc
  | named h hframe =>
    simp only [not_mem_toList_append, hmethods _ h, lineEnds_not_mem_nameFrames c hc _ hframe,
      not_false_eq_true, and_self]
  | called h hfront =>
    simp only [not_mem_toList_append, hmethods _ h, lineEnds_not_mem_callFronts c hc _ hfront,
      hfield, hframes, not_false_eq_true, and_self]

/-! ## How lines start -/

/-- Neither of two texts starts with the other. -/
def Unlike (a b : String) : Prop := ¬ a.toList <+: b.toList ∧ ¬ b.toList <+: a.toList

instance {a b : String} : Decidable (Unlike a b) := inferInstanceAs (Decidable (_ ∧ _))

theorem Unlike.not_prefix_append {front fixed : String} (h : Unlike front fixed) (rest : String) :
    ¬ front.toList <+: (fixed ++ rest).toList := by
  rw [String.toList_append]
  intro hfront
  rcases List.prefix_or_prefix_of_prefix hfront (List.prefix_append _ _) with hpre | hpre
  · exact h.1 hpre
  · exact h.2 hpre

/-- What the lines start with that are read: mocks, marks and cases. -/
def readFronts : List String := ["    private val ", mark, "    fun `"]

theorem not_prefix_fixedLines (flavor : Flavor) :
    ∀ front ∈ readFronts, ∀ line ∈ fixedLines flavor, ¬ front.toList <+: line.toList := by
  cases flavor <;>
    simp only [readFronts, mark, fixedLines, importLines, annotationLines, lifecycleLines, bodyLines,
      List.forall_mem_append, List.forall_mem_cons] <;>
    and_intros
  all_goals first
    | exact List.forall_mem_nil _
    | repeat rw [String.toList_ofList]
      decide

/-- A line that does not start like a line that is read. -/
def Unread (line : String) : Prop := ∀ front ∈ readFronts, ¬ front.toList <+: line.toList

theorem unread_of_mem_fixedLines (h : line ∈ fixedLines flavor) : Unread line :=
  fun front hfront => not_prefix_fixedLines flavor front hfront line h

theorem unread_of_mem_bodyLines (h : line ∈ bodyLines) : Unread line :=
  fun front hfront => not_prefix_fixedLines .unit front hfront line (List.mem_append_right _ h)

/-- What a line starts with, where something is filled into it and it is not read. -/
def unreadFronts : List String :=
  ["package ", "class ", "        ", "            ", "    @Description(\"", "        val result = "]

theorem unread_append {fixed : String} (h : fixed ∈ unreadFronts) (rest : String) :
    Unread (fixed ++ rest) := by
  have hunlike : ∀ fixed ∈ unreadFronts, ∀ front ∈ readFronts, Unlike front fixed := by decide +kernel
  exact fun front hfront => (hunlike fixed h front hfront).not_prefix_append rest

theorem Surrounds.unread (h : Surrounds flavor d line) : Unread line := by
  cases h with
  | fixed h => exact unread_of_mem_fixedLines h
  | package => exact unread_append (by simp [unreadFronts]) _
  | header => rw [String.append_assoc]; exact unread_append (by simp [unreadFronts]) _
  | spied => rw [String.append_assoc]; exact unread_append (by simp [unreadFronts]) _
  | argument => simp only [String.append_assoc]; exact unread_append (by simp [unreadFronts]) _

/-! ## Readers of lines -/

/-- The names of the cases of a method. -/
def caseNames (m : Method) : List String := [m.name ++ "_success", m.name ++ "_error"]

/-- The line that declares a case. -/
def caseLine (name : String) : String := "    fun `" ++ name ++ "`() \x7b"

section Readers

variable {α : Type} {read : String → Option α}

theorem filterMap_cons_toList {line : String} {rest : List String} :
    (line :: rest).filterMap read = (read line).toList ++ rest.filterMap read := by
  rw [List.filterMap_cons]
  cases read line <;> rfl

/-- What a reader sees of a method that sees none of the unread lines. -/
theorem filterMap_caseLines (h : ∀ line, Unread line → read line = none) (field : String) (m : Method) :
    (caseLines field m).filterMap read =
      (caseNames m).flatMap fun name => (read mark).toList ++ (read (caseLine name)).toList := by
  have hbody : ∀ line ∈ bodyLines, read line = none := fun line hline =>
    h line (unread_of_mem_bodyLines hline)
  have hdescribed (rest : String) : read ("    @Description(\"" ++ rest) = none :=
    h _ (unread_append (by simp [unreadFronts]) rest)
  have hkept (rest : String) : read ("        val result = " ++ rest) = none :=
    h _ (unread_append (by simp [unreadFronts]) rest)
  have hcalled (rest : String) : read ("            " ++ rest) = none :=
    h _ (unread_append (by simp [unreadFronts]) rest)
  simp only [bodyLines, List.forall_mem_cons] at hbody
  simp [caseLines, successLines, errorLines, caseNames, caseLine, mark, toString,
    filterMap_cons_toList, String.append_assoc, hbody, hdescribed, hkept, hcalled]

/-- **What a reader sees of a scaffold** that sees none of the unread lines: the mocks, the spy, and of
every method the marks and the names of its cases, in this order. -/
theorem filterMap_lines (h : ∀ line, Unread line → read line = none) :
    (lines flavor d).filterMap read =
      d.dependencies.filterMap (fun p => read (mockLine p)) ++ (read (spyLine d)).toList ++
        d.publicMethods.flatMap fun m =>
          (caseNames m).flatMap fun name => (read mark).toList ++ (read (caseLine name)).toList := by
  have habove : (linesAbove flavor d).filterMap read = [] :=
    List.filterMap_eq_nil_iff.2 fun line hline => h line (surrounds_linesAbove line hline).unread
  have hbelow : (linesBelow d).filterMap read = [] :=
    List.filterMap_eq_nil_iff.2 fun line hline =>
      h line (surrounds_linesBelow flavor d line hline).unread
  have hbody : ∀ line ∈ bodyLines, read line = none := fun line hline =>
    h line (unread_of_mem_bodyLines hline)
  simp only [bodyLines, List.forall_mem_cons] at hbody
  simp only [lines_eq, List.filterMap_append, habove, hbelow, filterMap_cons_toList, hbody,
    List.filterMap_nil, List.filterMap_flatMap, List.filterMap_map, filterMap_caseLines h,
    List.nil_append, List.append_nil, Option.toList_none]
  rfl

end Readers

/-- What stands in front of a word at the end of a text. -/
def upTo? (word : String) (text : List Char) : Option (List Char) :=
  if word.toList <:+ text then some (text.take (text.length - word.toList.length)) else none

theorem upTo?_append (text : List Char) (word : String) :
    upTo? word (text ++ word.toList) = some text := by
  rw [upTo?, if_pos (List.suffix_append text word.toList), List.length_append, Nat.add_sub_cancel,
    List.take_left]

theorem eq_append_of_upTo? {word : String} {text rest : List Char} (h : upTo? word rest = some text) :
    rest = text ++ word.toList := by
  unfold upTo? at h
  split at h
  · next hsuffix =>
    obtain ⟨front, rfl⟩ := hsuffix
    rw [List.length_append, Nat.add_sub_cancel, List.take_left, Option.some.injEq] at h
    rw [h]
  · cases h

/-- What a line has between a front and a back. -/
def between? (front back line : String) : Option String :=
  ((after? front line.toList).bind (upTo? back)).map String.ofList

theorem between?_append (front name back : String) :
    between? front back (front ++ name ++ back) = some name := by
  rw [between?, String.toList_append, String.toList_append, List.append_assoc, after?_append,
    Option.bind_some, upTo?_append, Option.map_some, String.ofList_toList]

theorem eq_append_of_between? {front name back : String} (h : between? front back line = some name) :
    line = front ++ name ++ back := by
  obtain ⟨inner, hinner, rfl⟩ := Option.map_eq_some_iff.1 h
  obtain ⟨rest, hrest, hupTo⟩ := Option.bind_eq_some_iff.1 hinner
  rw [← String.toList_inj, eq_append_of_after? hrest, eq_append_of_upTo? hupTo]
  simp only [String.toList_append, String.toList_ofList, List.append_assoc]

theorem between?_of_not_prefix {front back : String} (h : ¬ front.toList <+: line.toList) :
    between? front back line = none := by
  rw [between?, after?_eq_none h]
  rfl

/-! ## Cases -/

/-- The name of the case that a line declares. -/
def caseName? : String → Option String := between? "    fun `" "`() \x7b"

theorem caseName?_eq_some_iff {name : String} : caseName? line = some name ↔ line = caseLine name :=
  ⟨eq_append_of_between?, fun h => h ▸ between?_append _ _ _⟩

/-- A line that is the mark of a case. -/
def mark? : String → Option String := Option.guard (· == mark)

theorem mark?_of_not_prefix (h : ¬ mark.toList <+: line.toList) : mark? line = none :=
  Option.guard_eq_none_iff.2 (beq_false_of_ne fun heq => h (heq ▸ List.prefix_refl _))

/-- The names of the cases stand in a scaffold in the order of the methods. -/
theorem caseNames_lines :
    (lines flavor d).filterMap caseName? = d.publicMethods.flatMap caseNames := by
  have hunread : ∀ line, Unread line → caseName? line = none := fun line h =>
    between?_of_not_prefix (h _ (by simp [readFronts]))
  have hprivate (rest : String) : caseName? ("    private val " ++ rest) = none :=
    between?_of_not_prefix (Unlike.not_prefix_append (by decide +kernel) rest)
  have hmark : caseName? mark = none := between?_of_not_prefix (by decide +kernel)
  have hname (name : String) : caseName? (caseLine name) = some name := caseName?_eq_some_iff.2 rfl
  simp [filterMap_lines hunread, mockLine_eq, spyLine_eq, String.append_assoc, hprivate, hmark, hname]

/-- There is a mark for every case. -/
theorem count_mark_lines : (lines flavor d).count mark = caseCount d := by
  have hunread : ∀ line, Unread line → mark? line = none := fun line h =>
    mark?_of_not_prefix (h _ (by simp [readFronts]))
  have hprivate (rest : String) : mark? ("    private val " ++ rest) = none :=
    mark?_of_not_prefix (Unlike.not_prefix_append (by decide +kernel) rest)
  have hmark : mark? mark = some mark := Option.guard_eq_some_iff.2 ⟨rfl, beq_self_eq_true _⟩
  have hname (rest : String) : mark? ("    fun `" ++ rest) = none :=
    mark?_of_not_prefix (Unlike.not_prefix_append (by decide +kernel) rest)
  have hmarks : ((lines flavor d).filterMap mark?).length = caseCount d := by
    simp [filterMap_lines hunread, mockLine_eq, spyLine_eq, caseLine, caseNames, String.append_assoc,
      hprivate, hmark, hname, List.length_flatMap, List.map_const', caseCount, casesPerMethod,
      Nat.mul_comm]
  rwa [mark?, List.filterMap_eq_filter, ← List.count_eq_length_filter] at hmarks

/-- If nothing that is filled in has a line end, the lines of the text are the lines that were written. -/
theorem linesOf_text (h : ∀ filling ∈ fillings d, '\n' ∉ filling.toList) :
    linesOf (text flavor d) = lines flavor d ++ [""] :=
  linesOf_ofLines fun line hline => (writes_of_mem_lines line hline).not_mem (by decide) h

theorem caseCount_eq (d : Descriptor) :
    caseCount d = 2 * (d.methods.filter (·.isPrivate = false)).length := by
  unfold caseCount casesPerMethod Descriptor.publicMethods
  congr 3
  funext m
  cases m.isPrivate <;> rfl

/-- A scaffold shows of the methods only those that are not private. -/
theorem text_of_publicMethods {methods : List Method}
    (h : methods.filter (!·.isPrivate) = d.publicMethods) :
    text flavor { d with methods } = text flavor d := by
  have hlines : lines flavor { d with methods } = lines flavor d := by
    unfold lines
    rw [show ({ d with methods } : Descriptor).publicMethods = d.publicMethods from h]
  rw [text, hlines, text]

/-- **The cases of a scaffold are read back from its text.** There is one mark for every case, which are
two for every method that is not private; the names of the cases stand in the text in the order of the
methods, whatever else the names and types in it look like; and a private method leaves no trace. -/
theorem cases_read_back (flavor : Flavor) (d : Descriptor)
    (h : ∀ filling ∈ fillings d, '\n' ∉ filling.toList) :
    (linesOf (text flavor d)).count "    @Test" = caseCount d ∧
      caseCount d = 2 * (d.methods.filter (·.isPrivate = false)).length ∧
      (linesOf (text flavor d)).filterMap caseName? =
        d.publicMethods.flatMap (fun m => [m.name ++ "_success", m.name ++ "_error"]) ∧
      ∀ (front back : List Method) (m : Method), d.methods = front ++ back → m.isPrivate = true →
        text flavor { d with methods := front ++ m :: back } = text flavor d := by
  refine ⟨?marks, caseCount_eq d, ?names, ?hidden⟩
  case marks =>
    change (linesOf (text flavor d)).count mark = caseCount d
    have hlast : [""].count mark = 0 := by decide
    rw [linesOf_text h, List.count_append, hlast, Nat.add_zero]
    exact count_mark_lines
  case names =>
    have hlast : [""].filterMap caseName? = [] := by decide
    rw [linesOf_text h, List.filterMap_append, hlast, List.append_nil]
    exact caseNames_lines
  case hidden =>
    intro front back m hmethods hprivate
    apply text_of_publicMethods
    rw [Descriptor.publicMethods, hmethods]
    simp [hprivate]

/-- A service whose names and types look like lines of its scaffold, with a private method whose name
has the lines of a case. -/
def imitating : Descriptor where
  package := "    @Test"
  className := "`() \x7b"
  dependencies := [⟨"    fun `a`() \x7b", "    @Test"⟩]
  methods := [⟨"    fun `b", "Unit", [], false⟩,
    ⟨"c`() \x7b\n    @Test\n    fun `d", "Unit", [], true⟩, ⟨"e", "Long", [], false⟩]

theorem cases_read_back_imitating :
    (∀ filling ∈ fillings imitating, '\n' ∉ filling.toList) ∧
      (linesOf (text .unit imitating)).count "    @Test" = 4 ∧
      (linesOf (text .unit imitating)).filterMap caseName? =
        ["    fun `b_success", "    fun `b_error", "e_success", "e_error"] := by
  have hfillings : ∀ filling ∈ fillings imitating, '\n' ∉ filling.toList := by decide +kernel
  obtain ⟨hmarks, -, hnames, -⟩ := cases_read_back .unit imitating hfillings
  exact ⟨hfillings, hmarks, hnames⟩

end Testsmith.Scaffold
