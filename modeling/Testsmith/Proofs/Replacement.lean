import Mathlib.Data.List.Infix
import Testsmith.Proofs.LoopFiles

/-!
# Replacement in a text

What replacing the accepted occurrences of a word by another one does to the occurrences of any word. A
new occurrence could arise at a seam only, where the replacement meets the text around it, and the text
behind a seam decides whether an occurrence in front of it is accepted. `Apart` rules out each of these
by a condition on the words alone, which can be computed. Then replacing brings in no occurrence
(`occursBefore_of_replaceAll`), and leaves none of the word that it replaces
(`not_occursBefore_replaceAll`). The patches for compiling are made of three replacements
(`Repair.Swap`), each of which is apart from all of them.
-/

namespace Testsmith.Text

variable {word new w text out rest after : List Char} {follows g : List Char → Bool} {c : Char}

/-! ## Occurrences and their replacement -/

/-- A word occurs in a text where what comes after it is accepted. -/
def OccursBefore (word : List Char) (follows : List Char → Bool) (text : List Char) : Prop :=
  ∃ before after, text = before ++ (word ++ after) ∧ follows after = true

/-- Where everything is accepted, occurring is being a part. -/
theorem occursBefore_anywhere_iff : OccursBefore word (fun _ => true) text ↔ word <:+: text := by
  constructor
  · rintro ⟨before, after, rfl, -⟩
    exact ⟨before, after, List.append_assoc ..⟩
  · rintro ⟨before, after, rfl⟩
    exact ⟨before, after, List.append_assoc .., rfl⟩

/-- A word occurs in front of a text, or behind its first character. -/
theorem occursBefore_cons_iff : OccursBefore word follows (c :: rest) ↔
    (∃ after, c :: rest = word ++ after ∧ follows after = true) ∨
      OccursBefore word follows rest := by
  constructor
  · rintro ⟨before, after, heq, hfollows⟩
    cases before with
    | nil => exact .inl ⟨after, heq, hfollows⟩
    | cons d before => exact .inr ⟨before, after, (List.cons.inj heq).2, hfollows⟩
  · rintro (⟨after, heq, hfollows⟩ | ⟨before, after, rfl, hfollows⟩)
    · exact ⟨[], after, heq, hfollows⟩
    · exact ⟨c :: before, after, rfl, hfollows⟩

theorem replaceFrom_eq_replaceAll (covered : Nat) (text : List Char) :
    replaceFrom word new follows covered text = replaceAll word new follows (text.drop covered) := by
  induction text generalizing covered with
  | nil => rw [List.drop_nil]; cases covered <;> rfl
  | cons c rest ih =>
    cases covered with
    | zero => rfl
    | succ covered => exact ih covered

/-- An accepted occurrence in front is replaced. -/
theorem replaceAll_append (hword : word ≠ []) (hfollows : follows after = true) :
    replaceAll word new follows (word ++ after) = new ++ replaceAll word new follows after := by
  obtain ⟨c, word, rfl⟩ := List.exists_cons_of_ne_nil hword
  show replaceFrom (c :: word) new follows 0 (c :: (word ++ after)) = _
  unfold replaceFrom
  rw [if_pos, replaceFrom_eq_replaceAll, List.length_cons, Nat.add_sub_cancel, List.drop_left]
  rw [← List.cons_append, List.drop_left, hfollows, Bool.and_true]
  exact List.isPrefixOf_iff_prefix.2 (List.prefix_append ..)

/-- A character that no accepted occurrence starts with is kept. -/
theorem replaceAll_cons (h : ¬ ∃ after, c :: rest = word ++ after ∧ follows after = true) :
    replaceAll word new follows (c :: rest) = c :: replaceAll word new follows rest := by
  show replaceFrom word new follows 0 (c :: rest) = _
  unfold replaceFrom
  rw [if_neg]
  · rfl
  · rintro hmatch
    obtain ⟨hpre, hfollows⟩ := Bool.and_eq_true_iff.1 hmatch
    obtain ⟨after, heq⟩ := List.isPrefixOf_iff_prefix.1 hpre
    rw [← heq, List.drop_left] at hfollows
    exact h ⟨after, heq.symm, hfollows⟩

/-- A text without accepted occurrences stays as it is. -/
theorem replaceAll_of_not_occursBefore (h : ¬ OccursBefore word follows text) :
    replaceAll word new follows text = text := by
  induction text with
  | nil => rfl
  | cons c rest ih =>
    rw [occursBefore_cons_iff, not_or] at h
    rw [replaceAll_cons h.1, ih h.2]

/-! ## Replacing as a relation -/

/-- A text and what replacing makes of it. It is read from the left: an accepted occurrence is passed
over as a whole, and any other character is kept. -/
inductive Replaced (word new : List Char) (follows : List Char → Bool) :
    List Char → List Char → Prop
  | nil : Replaced word new follows [] []
  | kept {c : Char} {rest out : List Char}
      (bare : ¬ ∃ after, c :: rest = word ++ after ∧ follows after = true)
      (later : Replaced word new follows rest out) : Replaced word new follows (c :: rest) (c :: out)
  | swapped {after out : List Char} (accepted : follows after = true)
      (later : Replaced word new follows after out) :
      Replaced word new follows (word ++ after) (new ++ out)

theorem replaced_replaceAll (hword : word ≠ []) (text : List Char) :
    Replaced word new follows text (replaceAll word new follows text) := by
  -- By the length of the text, since an occurrence is passed over as a whole.
  induction hlen : text.length using Nat.strongRecOn generalizing text with
  | ind n ih =>
    subst hlen
    cases text with
    | nil => exact .nil
    | cons c rest =>
      by_cases hmatch : ∃ after, c :: rest = word ++ after ∧ follows after = true
      · obtain ⟨after, heq, hfollows⟩ := hmatch
        have hpos := List.length_pos_iff.2 hword
        rw [heq, replaceAll_append hword hfollows]
        exact .swapped hfollows (ih _ (by rw [heq, List.length_append]; omega) after rfl)
      · rw [replaceAll_cons hmatch]
        exact .kept hmatch (ih _ (Nat.lt_succ_self _) rest rfl)

/-- A text in which no occurrence can begin is passed over. -/
theorem replaceAll_append_of_not_mem {d : Char} {u : List Char} (hword : word.head? = some d)
    (hu : d ∉ u) (text : List Char) :
    replaceAll word new follows (u ++ text) = u ++ replaceAll word new follows text := by
  induction u with
  | nil => rfl
  | cons c u ih =>
    obtain ⟨hc, hlater⟩ := not_or.1 (mt List.mem_cons.2 hu)
    rw [List.cons_append, replaceAll_cons, ih hlater, List.cons_append]
    rintro ⟨after, heq, -⟩
    obtain ⟨word, rfl⟩ := List.head?_eq_some_iff.1 hword
    exact hc (List.cons.inj heq).1.symm

/-- A text in which no replacement can begin was there before. -/
theorem exists_of_replaceAll_eq_append {d : Char} {u : List Char} (hword : word ≠ [])
    (hnew : new.head? = some d) (hu : d ∉ u) (h : replaceAll word new follows text = u ++ out) :
    ∃ rest, text = u ++ rest ∧ replaceAll word new follows rest = out := by
  induction u generalizing text with
  | nil => exact ⟨text, rfl, h⟩
  | cons c u ih =>
    obtain ⟨hc, hlater⟩ := not_or.1 (mt List.mem_cons.2 hu)
    cases text with
    | nil => cases h
    | cons e rest =>
      by_cases hmatch : ∃ after, e :: rest = word ++ after ∧ follows after = true
      · obtain ⟨after, heq, hfollows⟩ := hmatch
        obtain ⟨new, rfl⟩ := List.head?_eq_some_iff.1 hnew
        rw [heq, replaceAll_append hword hfollows] at h
        exact absurd (List.cons.inj h).1 hc
      · rw [replaceAll_cons hmatch] at h
        obtain ⟨rfl, hrest⟩ := List.cons.inj h
        obtain ⟨rest, rfl, hout⟩ := ih hlater hrest
        exact ⟨rest, rfl, hout⟩

/-! ## Seams -/

/-- Where replacing `word` by `new` makes no accepted occurrence of `w`: at no seam does a part of `new`
continue to `w` or a part of `w` to `new`, unless what follows is refused, and what follows `new` is
accepted only if `word` is. Whether a text is accepted behind `w` depends on its first character. -/
structure Apart (w : List Char) (g : List Char → Bool) (word new : List Char) : Prop where
  looks : ∀ c x y, g (c :: x) = g (c :: y)
  word_ne : word ≠ []
  new_ne : new ≠ []
  leaves : ∀ v ∈ new.tails, v ≠ [] → ¬ v <+: w ∧ ¬ w <+: v
  enters : ∀ u ∈ w.tails, u ≠ [] → ¬ new <+: u ∧ (u <+: new → g (new.drop u.length) = false)
  accepts : g new = true → g word = true

namespace Apart

variable (h : Apart w g word new)
include h

theorem looks_append {x y z : List Char} (hx : x ≠ []) : g (x ++ y) = g (x ++ z) := by
  obtain ⟨c, x, rfl⟩ := List.exists_cons_of_ne_nil hx
  exact h.looks c _ _

/-- No part of the word begins where the replacement does, if what is behind the part is accepted. -/
theorem append_ne {u : List Char} (hsuffix : u <:+ w) (hu : u ≠ []) (hg : g after = true) :
    u ++ after ≠ new ++ out := by
  intro heq
  obtain ⟨hlong, hshort⟩ := h.enters u ((List.mem_tails u w).2 hsuffix) hu
  rcases List.append_eq_append_iff.1 heq with ⟨v, hnew, hafter⟩ | ⟨v, hu, -⟩
  · have hv : v ≠ [] := by
      rintro rfl
      exact hlong ⟨[], by rw [hnew, List.append_nil, List.append_nil]⟩
    have hrefused := hshort ⟨v, hnew.symm⟩
    rw [hnew, List.drop_left] at hrefused
    rw [hafter, h.looks_append hv (z := []), List.append_nil, hrefused] at hg
    cases hg
  · exact hlong ⟨v, hu.symm⟩

/-- What stands in front of an accepted text after replacing, as a part of the word, stood there
before. -/
theorem front (hreplaced : Replaced word new follows text out) {u : List Char} (hsuffix : u <:+ w)
    (hout : out = u ++ after) (hg : g after = true) : ∃ before, text = u ++ before ∧ g before = true := by
  induction hreplaced generalizing u with
  | nil =>
    obtain ⟨rfl, rfl⟩ := List.append_eq_nil_iff.1 hout.symm
    exact ⟨[], rfl, hg⟩
  | @kept c rest out _ _ ih =>
    cases u with
    | nil =>
      subst hout
      exact ⟨c :: rest, rfl, (h.looks c rest out).trans hg⟩
    | cons d u =>
      obtain ⟨rfl, rfl⟩ := List.cons.inj hout
      obtain ⟨before, rfl, hbefore⟩ := ih ((List.suffix_cons c u).trans hsuffix) rfl
      exact ⟨before, rfl, hbefore⟩
  | @swapped text out _ _ _ =>
    cases u with
    | nil =>
      subst hout
      refine ⟨word ++ text, rfl, ?_⟩
      rw [h.looks_append h.new_ne (z := []), List.append_nil] at hg
      rw [h.looks_append h.word_ne (z := []), List.append_nil]
      exact h.accepts hg
    | cons d u => exact absurd hout.symm (h.append_ne hsuffix (List.cons_ne_nil d u) hg)

/-- An occurrence behind or across the end of the replacement is one behind it. -/
theorem occursBefore_of_append (hoccurs : OccursBefore w g (new ++ out)) : OccursBefore w g out := by
  obtain ⟨before, after, heq, hg⟩ := hoccurs
  rcases List.append_eq_append_iff.1 heq with ⟨v, -, hout⟩ | ⟨v, hnew, hrest⟩
  · exact ⟨v, after, hout, hg⟩
  · by_cases hv : v = []
    · subst hv
      exact ⟨[], after, hrest.symm, hg⟩
    · obtain ⟨hshort, hlong⟩ := h.leaves v ((List.mem_tails v new).2 ⟨before, hnew.symm⟩) hv
      have hv : v <+: w ++ after := hrest ▸ List.prefix_append v out
      rcases List.prefix_or_prefix_of_prefix hv (List.prefix_append w after) with hpre | hpre
      · exact absurd hpre hshort
      · exact absurd hpre hlong

/-- An occurrence after replacing was there before, and it is not one that was to be replaced. -/
theorem occursBefore_of_replaced (hreplaced : Replaced word new follows text out)
    (hoccurs : OccursBefore w g out) : OccursBefore w g text ∧ ¬ (w = word ∧ g = follows) := by
  induction hreplaced with
  | nil =>
    refine ⟨hoccurs, fun ⟨hw, _⟩ => h.word_ne ?_⟩
    obtain ⟨before, after, heq, -⟩ := hoccurs
    rw [← hw]
    exact (List.append_eq_nil_iff.1 (List.append_eq_nil_iff.1 heq.symm).2).1
  | kept bare later ih =>
    rcases occursBefore_cons_iff.1 hoccurs with ⟨after, heq, hg⟩ | hlater
    · obtain ⟨before, htext, hbefore⟩ := h.front (.kept bare later) List.suffix_rfl heq hg
      refine ⟨occursBefore_cons_iff.2 (.inl ⟨before, htext, hbefore⟩), ?_⟩
      rintro ⟨rfl, rfl⟩
      exact bare ⟨before, htext, hbefore⟩
    · obtain ⟨hrest, hother⟩ := ih hlater
      exact ⟨occursBefore_cons_iff.2 (.inr hrest), hother⟩
  | swapped _ _ ih =>
    obtain ⟨⟨before, after, heq, hg⟩, hother⟩ := ih (h.occursBefore_of_append hoccurs)
    exact ⟨⟨word ++ before, after, by rw [heq, List.append_assoc], hg⟩, hother⟩

/-- **Replacing brings in no occurrence** of a word that is apart from it. -/
theorem occursBefore_of_replaceAll (hoccurs : OccursBefore w g (replaceAll word new follows text)) :
    OccursBefore w g text :=
  (h.occursBefore_of_replaced (replaced_replaceAll h.word_ne text) hoccurs).1

end Apart

/-- Replacing leaves no occurrence, where it makes none. -/
theorem Apart.not_occursBefore_replaceAll (h : Apart word follows word new) (text : List Char) :
    ¬ OccursBefore word follows (replaceAll word new follows text) := fun hoccurs =>
  (h.occursBefore_of_replaced (replaced_replaceAll h.word_ne text) hoccurs).2 ⟨rfl, rfl⟩

end Testsmith.Text

namespace Testsmith.Repair

open Text

/-! ## The replacements of the patches -/

/-- A replacement that a patch makes. -/
inductive Swap where
  | unit
  | yes
  | no
  deriving DecidableEq, Repr

namespace Swap

def word : Swap → List Char
  | unit => "returns Unit".toList
  | yes => "\"Y\"".toList
  | no => "\"N\"".toList

def new : Swap → List Char
  | unit => "returns 1L".toList
  | yes => "true".toList
  | no => "false".toList

/-- What is accepted behind the word. -/
def follows : Swap → List Char → Bool
  | unit => wordEnds
  | yes | no => fun _ => true

def apply (a : Swap) : List Char → List Char := replaceAll a.word a.new a.follows

/-- There is something to replace. -/
abbrev Occurs (a : Swap) (text : List Char) : Prop := OccursBefore a.word a.follows text

/-- No replacement makes an occurrence for itself or another one. -/
theorem apart (a b : Swap) : Apart a.word a.follows b.word b.new := by
  cases a <;> cases b <;>
    exact ⟨fun _ _ _ => rfl, by decide, by decide, by decide, by decide, by decide⟩

theorem word_ne (a : Swap) : a.word ≠ [] := (a.apart a).word_ne

variable {a b : Swap} {text : List Char}

theorem not_occurs_apply (a : Swap) (text : List Char) : ¬ a.Occurs (a.apply text) :=
  (a.apart a).not_occursBefore_replaceAll text

theorem occurs_of_apply (h : a.Occurs (b.apply text)) : a.Occurs text :=
  (a.apart b).occursBefore_of_replaceAll h

/-- A text is left as it is exactly where there is nothing to replace. -/
theorem apply_eq_self_iff : a.apply text = text ↔ ¬ a.Occurs text :=
  ⟨fun h => h ▸ a.not_occurs_apply text, replaceAll_of_not_occursBefore⟩

end Swap

/-- The signature of the rule that makes a replacement. -/
def Swap.signature : Swap → String
  | unit => "Unit but Long"
  | yes | no => "String but Boolean"

/-- A replacement is made for a failure. -/
def CalledFor (message : String) (a : Swap) : Prop := a.signature.toList <:+: message.toList

/-- The replacements that are made for a failure, in order. -/
def swapsFor (message : String) : List Swap :=
  [Swap.unit, .yes, .no].filter fun a => occursIn a.signature.toList message.toList

/-- What some replacements make of a text, one after the other. -/
def swapAll (swaps : List Swap) (text : List Char) : List Char :=
  swaps.foldl (fun text a => a.apply text) text

section SwapAll

variable {swaps : List Swap} {text : List Char} {a : Swap}

theorem occurs_of_swapAll (h : a.Occurs (swapAll swaps text)) : a.Occurs text := by
  induction swaps generalizing text with
  | nil => exact h
  | cons b swaps ih => exact Swap.occurs_of_apply (ih h)

theorem not_occurs_swapAll (ha : a ∈ swaps) : ¬ a.Occurs (swapAll swaps text) := by
  induction swaps generalizing text with
  | nil => exact absurd ha List.not_mem_nil
  | cons b swaps ih =>
    rcases List.mem_cons.1 ha with rfl | ha
    · exact fun h => a.not_occurs_apply text (occurs_of_swapAll h)
    · exact ih ha

/-- A text is left as it is exactly where no replacement has anything to replace. -/
theorem swapAll_eq_self_iff : swapAll swaps text = text ↔ ∀ a ∈ swaps, ¬ a.Occurs text := by
  constructor
  · intro h a ha
    exact h ▸ not_occurs_swapAll ha
  · intro h
    induction swaps with
    | nil => rfl
    | cons b swaps ih =>
      obtain ⟨hb, hswaps⟩ := List.forall_mem_cons.1 h
      change swapAll swaps (b.apply text) = text
      rw [Swap.apply_eq_self_iff.2 hb]
      exact ih hswaps

end SwapAll

theorem mem_swapsFor_iff {message : String} {a : Swap} : a ∈ swapsFor message ↔ CalledFor message a := by
  rw [swapsFor, List.mem_filter, occursIn_iff]
  exact and_iff_right (by cases a <;> decide)

/-- The rules for compiling make the replacements that a failure calls for. -/
theorem patched_compileRules (text : List Char) (message : String) :
    compileRules.patched text message = swapAll (swapsFor message) text := by
  unfold Policy.patched Policy.firing compileRules swapsFor
  simp only [List.filter_cons, List.filter_nil, Rule.fires, Swap.signature]
  split <;> split <;> rfl

end Testsmith.Repair
