import Testsmith.Proofs.Replacement
import Testsmith.Proofs.ScaffoldLines

/-!
# Scaffolds that repairs leave alone

The rules for compiling replace three words. The scaffold of a service whose names are made of word
characters, and whose types have none of the words and no quotes, has no occurrence of them. What there
is to exclude are occurrences that are made up of parts: the end of one text and the beginning of the
next. A text of the template *bars* a word if neither of the two begins like an end of the other one
(`Text.Bars`), which can be computed. An occurrence does not reach into a text that bars it, so it stands
in what is filled in (`Text.Bars.infix_or`).

One text of the template does not bar the words in quotes, since it ends with a quote: the one in front of
a description. But behind its first character each word has one that a name cannot have
(`Repair.Swap.absent_quote_append`). `Scaffold.text_attempt` is the main statement.
-/

namespace Testsmith

/-! ## Texts that bar a word -/

namespace Text

variable {a b word frame x y : List Char}

/-- An end of a text and another text do not begin like each other. -/
def Ends (a b : List Char) : Prop := ∀ v ∈ a.tails, v ≠ [] → ¬ v <+: b ∧ ¬ b <+: v

instance : Decidable (Ends a b) := inferInstanceAs (Decidable (∀ _ ∈ _, _))

/-- No occurrence of a word reaches into a text, whatever stands around it. -/
structure Bars (word frame : List Char) : Prop where
  enters : Ends word frame
  leaves : Ends frame word

instance : Decidable (Bars word frame) :=
  decidable_of_iff (Ends word frame ∧ Ends frame word) ⟨fun h => ⟨h.1, h.2⟩, fun h => ⟨h.1, h.2⟩⟩

/-- Where an end of a text stands in front, another text does not. -/
theorem Ends.append_ne (h : Ends a b) {v : List Char} (hv : v <:+ a) (hne : v ≠ []) :
    v ++ x ≠ b ++ y := by
  intro heq
  obtain ⟨hshort, hlong⟩ := h v ((List.mem_tails v a).2 hv) hne
  rcases List.prefix_or_prefix_of_prefix (List.prefix_append v x) (heq ▸ List.prefix_append b y) with
    hpre | hpre
  · exact hshort hpre
  · exact hlong hpre

/-- A word that occurs in a text occurs in front of what bars it or behind. -/
theorem Bars.infix_or (h : Bars word frame) (hin : word <:+: x ++ frame ++ y) :
    word <:+: x ∨ word <:+: y := by
  obtain ⟨before, after, heq⟩ := hin
  rw [List.append_assoc, List.append_assoc] at heq
  rcases List.append_eq_append_iff.1 heq with ⟨u, hx, hrest⟩ | ⟨u, -, hrest⟩
  · -- The occurrence begins in front of the frame, and so it ends there.
    rcases List.append_eq_append_iff.1 hrest with ⟨v, hu, -⟩ | ⟨v, hword, hframe⟩
    · exact .inl ⟨before, v, by rw [hx, hu, List.append_assoc]⟩
    · have hv : v = [] := by
        by_contra hne
        exact h.enters.append_ne ⟨u, hword.symm⟩ hne hframe.symm
      rw [hv, List.append_nil] at hword
      exact .inl ⟨before, [], by rw [hword, hx, List.append_nil]⟩
  · -- It begins in the frame or behind, and so it begins behind.
    rcases List.append_eq_append_iff.1 hrest with ⟨v, -, hy⟩ | ⟨v, hframe, hafter⟩
    · exact .inr ⟨v, after, by rw [hy, List.append_assoc]⟩
    · have hv : v = [] := by
        by_contra hne
        exact h.leaves.append_ne ⟨u, hframe.symm⟩ hne hafter.symm
      rw [hv, List.nil_append] at hafter
      exact .inr ⟨[], after, hafter⟩

end Text

/-! ## Texts without the words -/

namespace Repair.Swap

open Scaffold Text

variable {a : Swap} {x y : String}

/-- There is nothing in a text to replace, whatever is accepted behind the word. -/
def Absent (a : Swap) (text : String) : Prop := ¬ a.word <:+: text.toList

instance {text : String} : Decidable (a.Absent text) := inferInstanceAs (Decidable (¬ _))

theorem Absent.not_occurs {text : String} (h : a.Absent text) : ¬ a.Occurs text.toList := by
  rintro ⟨before, after, heq, -⟩
  exact h ⟨before, after, by rw [heq, List.append_assoc]⟩

theorem absent_empty (a : Swap) : a.Absent "" := fun h => a.word_ne (List.infix_nil.1 h)

/-- Without the words on both sides of a text that bars them, they are not across it either. -/
theorem Absent.around (hx : a.Absent x) {frame : String} (hframe : Bars a.word frame.toList)
    (hy : a.Absent y) : a.Absent (x ++ frame ++ y) := by
  unfold Absent
  rw [String.toList_append, String.toList_append]
  intro h
  rcases hframe.infix_or h with h | h
  · exact hx h
  · exact hy h

theorem Absent.before (hx : a.Absent x) {frame : String} (hframe : Bars a.word frame.toList) :
    a.Absent (x ++ frame) := by
  have h := hx.around hframe a.absent_empty
  rwa [String.append_empty] at h

theorem Absent.behind (hy : a.Absent y) {frame : String} (hframe : Bars a.word frame.toList) :
    a.Absent (frame ++ y) := by
  have h := a.absent_empty.around hframe hy
  rwa [String.empty_append] at h

/-- A text without blanks and quotes. -/
def Solid (text : String) : Prop := ' ' ∉ text.toList ∧ '"' ∉ text.toList

/-- Behind its first character each word has a blank or a quote. -/
theorem mem_tail_word (a : Swap) : ' ' ∈ a.word.tail ∨ '"' ∈ a.word.tail := by
  cases a <;> decide

/-- There is no word in a text that is solid but for its first character. -/
theorem not_infix_cons {c : Char} (h : Solid x) : ¬ a.word <:+: c :: x.toList := by
  intro hin
  have htail : a.word.tail ⊆ x.toList := by
    rcases List.infix_cons_iff.1 hin with hpre | hin
    · obtain ⟨rest, heq⟩ := hpre
      have htail : a.word.tail ++ rest = x.toList := by
        rw [← List.tail_append_of_ne_nil a.word_ne, heq, List.tail_cons]
      rw [← htail]
      exact List.subset_append_left _ _
    · exact fun c hc => hin.subset (List.mem_of_mem_tail hc)
  rcases a.mem_tail_word with hblank | hquote
  · exact h.1 (htail hblank)
  · exact h.2 (htail hquote)

theorem Solid.absent (h : Solid x) : a.Absent x := by
  intro hin
  exact not_infix_cons (c := ' ') h (List.infix_cons hin)

/-- The quote in front of a description makes no word with what stands behind it. -/
theorem absent_quote_append (h : Solid x) : a.Absent ("\"" ++ x) := by
  unfold Absent
  rw [String.toList_append]
  exact not_infix_cons h

theorem bars_frames (a : Swap) : ∀ frame ∈ frames, Bars a.word frame.toList := by
  cases a <;> decide +kernel

theorem bars_callFronts (a : Swap) : ∀ front ∈ callFronts, Bars a.word front.toList := by
  cases a <;> decide +kernel

theorem bars_nameFrames (a : Swap) : ∀ frame ∈ nameFrames, Bars a.word frame.2.toList := by
  cases a <;> decide +kernel

/-- In front of a solid name the template has no word, nor across. -/
theorem absent_of_mem_nameFrames (h : Solid x) : ∀ frame ∈ nameFrames, a.Absent (frame.1 ++ x) := by
  have hdescription : Bars a.word "    @Description(".toList := by cases a <;> decide +kernel
  have hdeclaration : Bars a.word "    fun `".toList := by cases a <;> decide +kernel
  have hsplit : "    @Description(\"" ++ x = "    @Description(" ++ ("\"" ++ x) := by
    rw [← String.append_assoc]; rfl
  simp only [nameFrames, List.forall_mem_cons, hsplit]
  exact ⟨(absent_quote_append h).behind hdescription, (absent_quote_append h).behind hdescription,
    h.absent.behind hdeclaration, h.absent.behind hdeclaration, List.forall_mem_nil _⟩

theorem absent_fixedLines (flavor : Flavor) :
    ∀ line ∈ fixedLines flavor, a.Absent line := by
  unfold Absent
  cases flavor <;>
    simp only [fixedLines, importLines, annotationLines, lifecycleLines, bodyLines,
      List.forall_mem_append, List.forall_mem_cons] <;>
    and_intros
  all_goals first
    | exact List.forall_mem_nil _
    | rw [String.toList_ofList]; cases a <;> decide

end Repair.Swap

/-! ## Scaffolds of plain services -/

namespace Scaffold

open Repair Text

variable {flavor : Flavor} {d : Descriptor} {line : String} {a : Swap}

/-- A text of word characters. -/
def IsName (text : String) : Prop := ∀ c ∈ text.toList, isWord c = true

instance {text : String} : Decidable (IsName text) := inferInstanceAs (Decidable (∀ _ ∈ _, _))

/-- A service whose names are made of word characters, and its package of these and points. Types can be
anything in which nothing can be replaced and nothing quoted. Private methods leave no trace. -/
structure Plain (d : Descriptor) : Prop where
  package : ∀ c ∈ d.package.toList, isWord c = true ∨ c = '.'
  className : IsName d.className
  methods : ∀ m ∈ d.publicMethods, IsName m.name
  dependencies : ∀ p ∈ d.dependencies, IsName p.name
  unquoted : ∀ p ∈ d.dependencies, '"' ∉ p.type.toList
  unstubbed : ∀ p ∈ d.dependencies, ¬ "returns Unit".toList <:+: p.type.toList

theorem IsName.not_mem {name : String} (h : IsName name) {c : Char} (hc : isWord c = false) :
    c ∉ name.toList := by
  intro hmem
  rw [h c hmem] at hc
  cases hc

theorem IsName.solid {name : String} (h : IsName name) : Swap.Solid name :=
  ⟨h.not_mem (by decide), h.not_mem (by decide)⟩

theorem solid_fieldName {className : String} (h : Swap.Solid className) :
    Swap.Solid (fieldName className) :=
  ⟨not_mem_fieldName (by decide) (by decide) h.1, not_mem_fieldName (by decide) (by decide) h.2⟩

namespace Plain

variable (h : Plain d)
include h

theorem not_mem_package {c : Char} (hword : isWord c = false) (hpoint : c ≠ '.') :
    c ∉ d.package.toList := by
  intro hmem
  rcases h.package c hmem with hc | hc
  · rw [hc] at hword
    cases hword
  · exact hpoint hc

theorem solid_package : Swap.Solid d.package :=
  ⟨h.not_mem_package (by decide) (by decide), h.not_mem_package (by decide) (by decide)⟩

theorem absent_type {p : Parameter} (hp : p ∈ d.dependencies) : a.Absent p.type := by
  intro hin
  cases a with
  | unit => exact h.unstubbed p hp hin
  | yes | no => exact h.unquoted p hp (hin.subset (by decide))

end Plain

/-- No line of the scaffold of a plain service has a word in it. -/
theorem Writes.absent (hwrites : Writes flavor d line) (h : Plain d) : a.Absent line := by
  have hclass := h.className.solid
  have hfield : a.Absent (fieldName d.className) := (solid_fieldName hclass).absent
  have hname {p : Parameter} (hp : p ∈ d.dependencies) : a.Absent p.name :=
    (h.dependencies p hp).solid.absent
  have hbars := a.bars_frames
  simp only [frames, List.forall_mem_cons] at hbars
  obtain ⟨hpackage, hheader, htest, hindent, hopen, hdeep, hequals, hcomma, hval, hcolon, hmock, hspy,
    hpoint, hcall, -⟩ := hbars
  cases hwrites with
  | around hline =>
    cases hline with
    | fixed hline => exact a.absent_fixedLines flavor line hline
    | package => exact h.solid_package.absent.behind hpackage
    | header => exact (hclass.absent.behind hheader).before htest
    | spied => exact (hclass.absent.behind hindent).before hopen
    | argument hp => exact (((hname hp).behind hdeep).around hequals (hname hp)).before hcomma
  | mock hp => exact (((hname hp).behind hval).around hcolon (h.absent_type hp)).before hmock
  | spy => exact ((hfield.behind hval).around hcolon hclass.absent).before hspy
  | mark => cases a <;> decide +kernel
  | named hm hframe =>
    have hsolid := (h.methods _ hm).solid
    exact (Swap.absent_of_mem_nameFrames hsolid _ hframe).before (a.bars_nameFrames _ hframe)
  | called hm hfront =>
    have hmethod : a.Absent _ := (h.methods _ hm).solid.absent
    exact ((hfield.behind (a.bars_callFronts _ hfront)).around hpoint hmethod).before hcall

theorem absent_ofLines {written : List String} (h : ∀ line ∈ written, a.Absent line) :
    a.Absent (ofLines written) := by
  have hend : Bars a.word ['\n'] := by cases a <;> decide
  induction written with
  | nil => exact a.absent_empty
  | cons line rest ih =>
    obtain ⟨hline, hrest⟩ := List.forall_mem_cons.1 h
    unfold Swap.Absent
    rw [toList_ofLines_cons, List.append_cons]
    intro hin
    rcases hend.infix_or hin with hin | hin
    · exact hline hin
    · exact ih hrest hin

/-- **Repairs leave the scaffold of a plain service alone**, whatever the failure is. -/
theorem text_attempt (h : Plain d) (message : String) :
    (compileRules.attempt (text flavor d) message).text = text flavor d := by
  have hpatched : compileRules.patched (text flavor d).toList message = (text flavor d).toList := by
    rw [patched_compileRules, swapAll_eq_self_iff]
    intro a _
    exact (absent_ofLines fun line hline => (writes_of_mem_lines line hline).absent h).not_occurs
  rw [Policy.text_attempt, Policy.repaired, List.foldl_cons, List.foldl_nil, hpatched,
    String.ofList_toList]

/-! ## Carriage returns -/

theorem mem_ofLines_iff {written : List String} {c : Char} (hc : c ≠ '\n') :
    c ∈ (ofLines written).toList ↔ ∃ line ∈ written, c ∈ line.toList := by
  induction written with
  | nil => exact ⟨fun h => absurd h List.not_mem_nil, fun ⟨_, h, _⟩ => absurd h List.not_mem_nil⟩
  | cons line rest ih =>
    simp only [toList_ofLines_cons, List.mem_append, List.mem_cons, hc, false_or, ih, exists_eq_or_imp]

/-- A carriage return stands in the scaffold of a plain service exactly where one stands in the type of a
dependency. -/
theorem return_mem_text_iff (h : Plain d) :
    '\r' ∈ (text flavor d).toList ↔ ∃ p ∈ d.dependencies, '\r' ∈ p.type.toList := by
  have hname {name : String} (hname : IsName name) : '\r' ∉ name.toList := hname.not_mem (by decide)
  constructor
  · contrapose!
    intro htypes hmem
    obtain ⟨line, hline, hmem⟩ := (mem_ofLines_iff (by decide)).1 hmem
    refine (writes_of_mem_lines line hline).not_mem (by decide) ?_ hmem
    simp only [fillings, List.cons_append, List.forall_mem_cons, List.forall_mem_append,
      List.forall_mem_flatMap, List.forall_mem_map]
    exact ⟨h.not_mem_package (by decide) (by decide), hname h.className,
      fun p hp => ⟨hname (h.dependencies p hp), htypes p hp, List.forall_mem_nil _⟩,
      fun m hm => hname (h.methods m hm)⟩
  · rintro ⟨p, hp, hmem⟩
    refine (mem_ofLines_iff (by decide)).2 ⟨mockLine p, ?_, ?_⟩
    · simp only [lines_eq, List.mem_append]
      exact .inl (.inl (.inl (.inl (.inr (List.mem_map_of_mem hp)))))
    · rw [mockLine_eq]
      simp [hmem]

end Scaffold

end Testsmith
