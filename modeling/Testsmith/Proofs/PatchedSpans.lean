import Testsmith.Proofs.Replacement

/-!
# Patched spans

What a repair of a file changes in it. The rules for compiling go over the text three times, but what
they do can be told in one reading of it (`Edited`): a span that is matched is replaced, and every other
character is kept (`edited_patched`). The file is read with unified line ends, so a line that ends in a
carriage return ends in a line feed after a repair, as in `carriageReturn_unified`. That does not change
which spans are matched (`Edited.unifyNewlines`). `repair_touches_matches` is the main statement.
-/

namespace Testsmith

namespace Repair

open Text

variable {message : String} {a : Swap} {c : Char} {u text out rest after : List Char}

/-! ## Matched spans -/

/-- The word of a replacement is matched in front of a text. Of an `"N"` and a `"Y"` that share a quote
it is the `"Y"`. -/
structure Matched (message : String) (a : Swap) (after : List Char) : Prop where
  calledFor : CalledFor message a
  follows : a.follows after = true
  alone : a = .no → ¬ "Y\"".toList <+: after

/-- A text, and the text with the matched spans replaced and every other character kept. -/
inductive Edited (message : String) : List Char → List Char → Prop
  | nil : Edited message [] []
  | kept {c : Char} {rest out : List Char}
      (bare : ∀ a after, c :: rest = a.word ++ after → ¬ Matched message a after)
      (later : Edited message rest out) : Edited message (c :: rest) (c :: out)
  | swapped {a : Swap} {after out : List Char} (matched : Matched message a after)
      (later : Edited message after out) : Edited message (a.word ++ after) (a.new ++ out)

/-- No word begins with another one. -/
theorem Swap.eq_of_append_eq {a b : Swap} {x y : List Char} (h : a.word ++ x = b.word ++ y) :
    a = b ∧ x = y := by
  have hwords : ∀ a b : Swap, a ≠ b → ¬ a.word <+: b.word ∧ ¬ b.word <+: a.word := by
    intro a b
    cases a <;> cases b <;> decide
  by_cases hab : a = b
  · subst hab
    exact ⟨rfl, List.append_cancel_left h⟩
  · obtain ⟨hshort, hlong⟩ := hwords a b hab
    rcases List.prefix_or_prefix_of_prefix (List.prefix_append a.word x)
      (h ▸ List.prefix_append b.word y) with hpre | hpre
    · exact absurd hpre hshort
    · exact absurd hpre hlong

/-- A matched span has been replaced. -/
theorem Edited.of_matched (matched : Matched message a after)
    (h : Edited message (a.word ++ after) out) : ∃ later, out = a.new ++ later ∧ Edited message after later := by
  generalize htext : a.word ++ after = text at h
  cases h with
  | nil => exact absurd (List.append_eq_nil_iff.1 htext).1 a.word_ne
  | kept bare _ => exact absurd matched (bare a after htext.symm)
  | swapped _ later =>
    obtain ⟨rfl, rfl⟩ := Swap.eq_of_append_eq htext
    exact ⟨_, rfl, later⟩

/-- A character that no matched span begins with has been kept. -/
theorem Edited.of_bare (bare : ∀ a after, c :: rest = a.word ++ after → ¬ Matched message a after)
    (h : Edited message (c :: rest) out) : ∃ later, out = c :: later ∧ Edited message rest later := by
  generalize htext : c :: rest = text at h
  cases h with
  | nil => cases htext
  | kept _ later =>
    obtain ⟨rfl, rfl⟩ := List.cons.inj htext
    exact ⟨_, rfl, later⟩
  | swapped matched _ => exact absurd matched (bare _ _ htext)

theorem Edited.of_nil (h : Edited message [] out) : out = [] := by
  generalize htext : ([] : List Char) = text at h
  cases h with
  | nil => rfl
  | kept => cases htext
  | @swapped a => exact absurd (List.append_eq_nil_iff.1 htext.symm).1 a.word_ne

/-- What is made of a text is determined. -/
theorem Edited.eq (h : Edited message text out) {other : List Char}
    (hother : Edited message text other) : out = other := by
  induction h generalizing other with
  | nil => exact hother.of_nil.symm
  | kept bare _ ih =>
    obtain ⟨later, rfl, hlater⟩ := hother.of_bare bare
    rw [ih hlater]
  | swapped matched _ ih =>
    obtain ⟨later, rfl, hlater⟩ := hother.of_matched matched
    rw [ih hlater]

/-! ## The rules in one reading -/

/-- What the rule for stubs makes of a text. -/
def repairStubs (message : String) (text : List Char) : List Char :=
  if occursIn Swap.unit.signature.toList message.toList then Swap.unit.apply text else text

/-- What the rule for flags makes of a text. -/
def repairFlags (message : String) (text : List Char) : List Char :=
  if occursIn Swap.yes.signature.toList message.toList then Swap.no.apply (Swap.yes.apply text) else text

theorem patched_eq (message : String) (text : List Char) :
    compileRules.patched text message = repairFlags message (repairStubs message text) := by
  have hsignature : Swap.no.signature = Swap.yes.signature := rfl
  rw [patched_compileRules]
  unfold repairFlags repairStubs swapsFor
  rw [List.filter_cons, List.filter_cons, List.filter_cons, List.filter_nil, hsignature]
  cases occursIn Swap.unit.signature.toList message.toList <;>
    cases occursIn Swap.yes.signature.toList message.toList <;> rfl

theorem Swap.apply_cons (h : ¬ a.word <+: c :: rest) : a.apply (c :: rest) = c :: a.apply rest :=
  replaceAll_cons fun ⟨after, heq, _⟩ => h ⟨after, heq.symm⟩

/-! ### Stubs -/

theorem repairStubs_eq_apply (h : CalledFor message .unit) :
    repairStubs message text = Swap.unit.apply text := if_pos (occursIn_iff.2 h)

theorem repairStubs_eq_self (h : ¬ CalledFor message .unit) : repairStubs message text = text :=
  if_neg (mt occursIn_iff.1 h)

/-- Text without an r is passed over. -/
theorem repairStubs_append (hu : 'r' ∉ u) (text : List Char) :
    repairStubs message (u ++ text) = u ++ repairStubs message text := by
  by_cases hcalled : CalledFor message .unit
  · rw [repairStubs_eq_apply hcalled, repairStubs_eq_apply hcalled]
    exact replaceAll_append_of_not_mem rfl hu text
  · rw [repairStubs_eq_self hcalled, repairStubs_eq_self hcalled]

/-- Text without an r was there before. -/
theorem exists_of_repairStubs (hu : 'r' ∉ u) (h : repairStubs message text = u ++ out) :
    ∃ rest, text = u ++ rest ∧ repairStubs message rest = out := by
  by_cases hcalled : CalledFor message .unit
  · rw [repairStubs_eq_apply hcalled] at h
    obtain ⟨rest, rfl, hout⟩ := exists_of_replaceAll_eq_append Swap.unit.word_ne rfl hu h
    exact ⟨rest, rfl, (repairStubs_eq_apply hcalled).trans hout⟩
  · exact ⟨out, (repairStubs_eq_self hcalled).symm.trans h, repairStubs_eq_self hcalled⟩

theorem prefix_repairStubs_iff (hu : 'r' ∉ u) : u <+: repairStubs message text ↔ u <+: text := by
  constructor
  · rintro ⟨out, hout⟩
    obtain ⟨rest, rfl, -⟩ := exists_of_repairStubs hu hout.symm
    exact List.prefix_append u rest
  · rintro ⟨rest, rfl⟩
    rw [repairStubs_append hu]
    exact List.prefix_append u _

theorem repairStubs_word (h : Matched message .unit after) :
    repairStubs message (Swap.unit.word ++ after) = Swap.unit.new ++ repairStubs message after := by
  rw [repairStubs_eq_apply h.calledFor, repairStubs_eq_apply h.calledFor]
  exact replaceAll_append Swap.unit.word_ne h.follows

theorem repairStubs_cons
    (h : ∀ after, c :: rest = Swap.unit.word ++ after → ¬ Matched message .unit after) :
    repairStubs message (c :: rest) = c :: repairStubs message rest := by
  by_cases hcalled : CalledFor message .unit
  · rw [repairStubs_eq_apply hcalled, repairStubs_eq_apply hcalled]
    exact replaceAll_cons fun ⟨after, heq, hends⟩ => h after heq ⟨hcalled, hends, nofun⟩
  · rw [repairStubs_eq_self hcalled, repairStubs_eq_self hcalled]

/-! ### Flags -/

theorem repairFlags_eq_apply (h : CalledFor message .yes) :
    repairFlags message text = Swap.no.apply (Swap.yes.apply text) := if_pos (occursIn_iff.2 h)

theorem repairFlags_eq_self (h : ¬ CalledFor message .yes) : repairFlags message text = text :=
  if_neg (mt occursIn_iff.1 h)

/-- Text without quotes is passed over. -/
theorem repairFlags_append (hu : '"' ∉ u) (text : List Char) :
    repairFlags message (u ++ text) = u ++ repairFlags message text := by
  by_cases hcalled : CalledFor message .yes
  · rw [repairFlags_eq_apply hcalled, repairFlags_eq_apply hcalled, Swap.apply, Swap.apply,
      replaceAll_append_of_not_mem rfl hu, replaceAll_append_of_not_mem rfl hu]
  · rw [repairFlags_eq_self hcalled, repairFlags_eq_self hcalled]

theorem repairFlags_yes (h : CalledFor message .yes) :
    repairFlags message (Swap.yes.word ++ after) = Swap.yes.new ++ repairFlags message after := by
  rw [repairFlags_eq_apply h, repairFlags_eq_apply h, Swap.apply, Swap.apply,
    replaceAll_append Swap.yes.word_ne rfl, replaceAll_append_of_not_mem rfl (by decide)]

/-- The first replacement leaves an `"N"` that shares no quote with a `"Y"`. -/
theorem yes_apply_no (h : ¬ "Y\"".toList <+: after) :
    Swap.yes.apply (Swap.no.word ++ after) = Swap.no.word ++ Swap.yes.apply after := by
  change Swap.yes.apply ('"' :: 'N' :: '"' :: after) = '"' :: 'N' :: '"' :: Swap.yes.apply after
  rw [Swap.apply_cons, Swap.apply_cons, Swap.apply_cons]
  · exact fun hquote => h (List.cons_prefix_cons.1 hquote).2
  · exact fun hletter => absurd (List.cons_prefix_cons.1 hletter).1 (by decide)
  · exact fun hquote =>
      absurd (List.cons_prefix_cons.1 (List.cons_prefix_cons.1 hquote).2).1 (by decide)

theorem repairFlags_no (h : Matched message .no after) :
    repairFlags message (Swap.no.word ++ after) = Swap.no.new ++ repairFlags message after := by
  have hcalled : CalledFor message .yes := h.calledFor
  rw [repairFlags_eq_apply hcalled, repairFlags_eq_apply hcalled, yes_apply_no (h.alone rfl)]
  exact replaceAll_append Swap.no.word_ne rfl

theorem repairFlags_cons (hyes : CalledFor message .yes → ¬ Swap.yes.word <+: c :: rest)
    (hno : ∀ after, c :: rest = Swap.no.word ++ after → ¬ Matched message .no after) :
    repairFlags message (c :: rest) = c :: repairFlags message rest := by
  by_cases hcalled : CalledFor message .yes
  · rw [repairFlags_eq_apply hcalled, repairFlags_eq_apply hcalled, Swap.apply_cons (hyes hcalled)]
    refine Swap.apply_cons ?_
    rintro ⟨out, hout⟩
    change '"' :: (['N', '"'] ++ out) = c :: Swap.yes.apply rest at hout
    obtain ⟨rfl, hrest⟩ := List.cons.inj hout
    obtain ⟨after, rfl, -⟩ :=
      exists_of_replaceAll_eq_append Swap.yes.word_ne (d := 't') rfl (by decide) hrest.symm
    refine hno after rfl ⟨hcalled, rfl, fun _ hshared => ?_⟩
    -- The quote behind the N would have been replaced.
    obtain ⟨later, rfl⟩ := hshared
    change ['N'] ++ ('"' :: out) = Swap.yes.apply (['N'] ++ (Swap.yes.word ++ later)) at hrest
    rw [Swap.apply, replaceAll_append_of_not_mem (d := '"') rfl (by decide),
      replaceAll_append Swap.yes.word_ne rfl] at hrest
    exact absurd (List.cons.inj (List.append_cancel_left hrest)).1 (by decide)
  · rw [repairFlags_eq_self hcalled, repairFlags_eq_self hcalled]

/-! ### Both rules -/

theorem matched_no_repairStubs_iff :
    Matched message .no (repairStubs message after) ↔ Matched message .no after := by
  have hshared : "Y\"".toList <+: repairStubs message after ↔ "Y\"".toList <+: after :=
    prefix_repairStubs_iff (by decide)
  exact ⟨fun h => ⟨h.calledFor, rfl, fun _ => mt hshared.2 (h.alone rfl)⟩,
    fun h => ⟨h.calledFor, rfl, fun _ => mt hshared.1 (h.alone rfl)⟩⟩

/-- A matched span is replaced, whichever rule it is that replaces it. -/
theorem repair_word (matched : Matched message a after) :
    repairFlags message (repairStubs message (a.word ++ after)) =
      a.new ++ repairFlags message (repairStubs message after) := by
  cases a with
  | unit => rw [repairStubs_word matched, repairFlags_append (by decide)]
  | yes => rw [repairStubs_append (by decide), repairFlags_yes matched.calledFor]
  | no =>
    rw [repairStubs_append (by decide), repairFlags_no (matched_no_repairStubs_iff.2 matched)]

/-- Any other character is kept by both rules. -/
theorem repair_cons (bare : ∀ a after, c :: rest = a.word ++ after → ¬ Matched message a after) :
    repairFlags message (repairStubs message (c :: rest)) =
      c :: repairFlags message (repairStubs message rest) := by
  rw [repairStubs_cons (bare .unit), repairFlags_cons]
  · rintro hcalled ⟨out, hout⟩
    change '"' :: (['Y', '"'] ++ out) = c :: repairStubs message rest at hout
    obtain ⟨rfl, hrest⟩ := List.cons.inj hout
    obtain ⟨after, rfl, -⟩ := exists_of_repairStubs (by decide) hrest.symm
    exact bare .yes after rfl ⟨hcalled, rfl, nofun⟩
  · intro out hout matched
    change c :: repairStubs message rest = '"' :: (['N', '"'] ++ out) at hout
    obtain ⟨rfl, hrest⟩ := List.cons.inj hout
    obtain ⟨after, rfl, rfl⟩ := exists_of_repairStubs (by decide) hrest
    exact bare .no after rfl (matched_no_repairStubs_iff.1 matched)

/-- **The rules in one reading**: they replace the spans that are matched and keep every other
character. -/
theorem edited_patched (message : String) (text : List Char) :
    Edited message text (compileRules.patched text message) := by
  rw [patched_eq]
  -- By the length of the text, since a matched span is passed over as a whole.
  induction hlen : text.length using Nat.strongRecOn generalizing text with
  | ind n ih =>
    subst hlen
    cases text with
    | nil =>
      have hnil : repairFlags message (repairStubs message []) = [] := by
        unfold repairFlags repairStubs
        split <;> split <;> rfl
      rw [hnil]
      exact .nil
    | cons c rest =>
      by_cases hmatch : ∃ a after, c :: rest = a.word ++ after ∧ Matched message a after
      · obtain ⟨a, after, heq, matched⟩ := hmatch
        have hpos := List.length_pos_iff.2 a.word_ne
        rw [heq, repair_word matched]
        exact .swapped matched (ih _ (by rw [heq, List.length_append]; omega) after rfl)
      · have bare : ∀ a after, c :: rest = a.word ++ after → ¬ Matched message a after :=
          fun a after heq matched => hmatch ⟨a, after, heq, matched⟩
        rw [repair_cons bare]
        exact .kept bare (ih _ (Nat.lt_succ_self _) rest rfl)

example : compileRules.patched "\"N\"Y\"N\"".toList "String but Boolean" = "\"NtrueN\"".toList := by
  decide

end Repair

/-! ## Line ends -/

namespace Text

variable {c : Char} {u text rest out : List Char}

theorem unifyNewlines_cons (hc : c ≠ '\r') : unifyNewlines (c :: rest) = c :: unifyNewlines rest := by
  rw [unifyNewlines]
  · rintro _ rfl
    exact absurd rfl hc
  · exact hc

theorem unifyNewlines_append (hu : '\r' ∉ u) (text : List Char) :
    unifyNewlines (u ++ text) = u ++ unifyNewlines text := by
  induction u with
  | nil => rfl
  | cons c u ih =>
    obtain ⟨hc, hlater⟩ := not_or.1 (mt List.mem_cons.2 hu)
    rw [List.cons_append, unifyNewlines_cons (Ne.symm hc), ih hlater, List.cons_append]

/-- A carriage return becomes a line feed, or stands in front of one and is left out. -/
theorem unifyNewlines_return (rest : List Char) : unifyNewlines ('\r' :: rest) =
    if rest.head? = some '\n' then unifyNewlines rest else '\n' :: unifyNewlines rest := by
  split
  · next hhead =>
    obtain ⟨rest, rfl⟩ := List.head?_eq_some_iff.1 hhead
    rw [unifyNewlines, unifyNewlines_cons (by decide)]
  · next hhead =>
    rw [unifyNewlines]
    rintro rest rfl
    exact hhead rfl

theorem head?_unifyNewlines_return (rest : List Char) :
    (unifyNewlines ('\r' :: rest)).head? = some '\n' := by
  rw [unifyNewlines_return]
  split
  · next hhead =>
    obtain ⟨rest, rfl⟩ := List.head?_eq_some_iff.1 hhead
    rw [unifyNewlines_cons (by decide), List.head?_cons]
  · rfl

/-- A text without line feeds was there before. -/
theorem exists_of_unifyNewlines (hu : '\n' ∉ u) (h : unifyNewlines text = u ++ out) :
    ∃ rest, text = u ++ rest ∧ unifyNewlines rest = out := by
  induction u generalizing text with
  | nil => exact ⟨text, rfl, h⟩
  | cons c u ih =>
    obtain ⟨hc, hlater⟩ := not_or.1 (mt List.mem_cons.2 hu)
    cases text with
    | nil => cases h
    | cons e rest =>
      by_cases he : e = '\r'
      · subst he
        have hhead := head?_unifyNewlines_return rest
        rw [h, List.cons_append, List.head?_cons] at hhead
        exact absurd (Option.some.inj hhead).symm hc
      · rw [unifyNewlines_cons he] at h
        obtain ⟨rfl, hrest⟩ := List.cons.inj h
        obtain ⟨rest, rfl, hout⟩ := ih hlater hrest
        exact ⟨rest, rfl, hout⟩

theorem unifyNewlines_eq_self_iff : unifyNewlines text = text ↔ '\r' ∉ text :=
  ⟨fun h => h ▸ not_mem_unifyNewlines text, unifyNewlines_of_not_mem⟩

end Text

namespace Repair

open Text

variable {message : String} {a : Swap} {text out after : List Char}

/-- No word and no replacement has a line end in it. -/
theorem Swap.no_lineEnds (a : Swap) :
    ('\r' ∉ a.word ∧ '\n' ∉ a.word) ∧ '\r' ∉ a.new ∧ '\n' ∉ a.new := by
  cases a <;> decide

/-- Whether a word ends does not depend on how lines end. -/
theorem wordEnds_unifyNewlines (text : List Char) : wordEnds (unifyNewlines text) = wordEnds text := by
  cases text with
  | nil => rfl
  | cons c rest =>
    by_cases hc : c = '\r'
    · subst hc
      obtain ⟨later, hlater⟩ := List.head?_eq_some_iff.1 (head?_unifyNewlines_return rest)
      rw [hlater]
      exact (by decide : (!isWord '\n') = !isWord '\r')
    · rw [unifyNewlines_cons hc]
      rfl

theorem matched_unifyNewlines_iff :
    Matched message a (unifyNewlines after) ↔ Matched message a after := by
  have hfollows : a.follows (unifyNewlines after) = a.follows after := by
    cases a with
    | unit => exact wordEnds_unifyNewlines after
    | yes | no => rfl
  have hshared : "Y\"".toList <+: unifyNewlines after ↔ "Y\"".toList <+: after := by
    constructor
    · rintro ⟨out, hout⟩
      obtain ⟨rest, rfl, -⟩ := exists_of_unifyNewlines (by decide) hout.symm
      exact List.prefix_append _ rest
    · rintro ⟨rest, rfl⟩
      rw [unifyNewlines_append (by decide)]
      exact List.prefix_append _ _
  constructor
  · intro h
    exact ⟨h.calledFor, hfollows ▸ h.follows, fun ha => mt hshared.2 (h.alone ha)⟩
  · intro h
    exact ⟨h.calledFor, hfollows ▸ h.follows, fun ha => mt hshared.1 (h.alone ha)⟩

theorem Edited.head?_eq_newline_iff (h : Edited message text out) :
    out.head? = some '\n' ↔ text.head? = some '\n' := by
  have hhead (x y : List Char) (hx : x ≠ []) (hmem : '\n' ∉ x) : (x ++ y).head? ≠ some '\n' := by
    obtain ⟨c, x, rfl⟩ := List.exists_cons_of_ne_nil hx
    rintro ⟨⟩
    exact hmem List.mem_cons_self
  cases h with
  | nil | kept => rfl
  | @swapped a =>
    exact iff_of_false (hhead _ _ (a.apart a).new_ne a.no_lineEnds.2.2)
      (hhead _ _ a.word_ne a.no_lineEnds.1.2)

/-- **Spans do not depend on line ends**: with unified line ends the same spans are replaced. -/
theorem Edited.unifyNewlines (h : Edited message text out) :
    Edited message (unifyNewlines text) (unifyNewlines out) := by
  induction h with
  | nil => exact .nil
  | @kept c rest out bare later ih =>
    by_cases hc : c = '\r'
    · subst hc
      rw [unifyNewlines_return, unifyNewlines_return]
      by_cases hhead : rest.head? = some '\n'
      · rw [if_pos hhead, if_pos (later.head?_eq_newline_iff.2 hhead)]
        exact ih
      · rw [if_neg hhead, if_neg (mt later.head?_eq_newline_iff.1 hhead)]
        refine .kept (fun a after heq _ => ?_) ih
        obtain ⟨d, word, hword⟩ := List.exists_cons_of_ne_nil a.word_ne
        rw [hword] at heq
        refine a.no_lineEnds.1.2 ?_
        rw [hword, (List.cons.inj heq).1]
        exact List.mem_cons_self
    · rw [unifyNewlines_cons hc, unifyNewlines_cons hc]
      refine .kept (fun a after heq matched => ?_) ih
      rw [← unifyNewlines_cons hc] at heq
      obtain ⟨rest, htext, rfl⟩ := exists_of_unifyNewlines a.no_lineEnds.1.2 heq
      exact bare a rest htext (matched_unifyNewlines_iff.1 matched)
  | @swapped a after out matched _ ih =>
    rw [unifyNewlines_append a.no_lineEnds.1.1, unifyNewlines_append a.no_lineEnds.2.1]
    exact .swapped (matched_unifyNewlines_iff.2 matched) ih

/-- Repairing a text with unified line ends is unifying the line ends of the repaired text. -/
theorem patched_unifyNewlines (message : String) (text : List Char) :
    compileRules.patched (unifyNewlines text) message =
      unifyNewlines (compileRules.patched text message) :=
  (edited_patched message _).eq (edited_patched message text).unifyNewlines

theorem Edited.mem_return_iff (h : Edited message text out) : '\r' ∈ out ↔ '\r' ∈ text := by
  induction h with
  | nil => rfl
  | kept _ _ ih => rw [List.mem_cons, List.mem_cons, ih]
  | @swapped a _ _ _ _ ih =>
    rw [List.mem_append, List.mem_append, ih, or_iff_right a.no_lineEnds.1.1,
      or_iff_right a.no_lineEnds.2.1]

/-- Some rule for compiling fires where a replacement is called for. -/
theorem firing_compileRules_ne_nil_iff :
    compileRules.firing message ≠ [] ↔ ∃ a, CalledFor message a := by
  rw [Policy.firing_ne_nil_iff]
  constructor
  · rintro ⟨rule, hrule, hfires⟩
    have hsignature := Rule.fires_iff.1 hfires
    rcases List.mem_cons.1 hrule with rfl | hrule
    · exact ⟨.unit, hsignature⟩
    · obtain rfl := List.mem_singleton.1 hrule
      exact ⟨.yes, hsignature⟩
  · rintro ⟨a, ha⟩
    cases a with
    | unit => exact ⟨_, List.mem_cons_self, Rule.fires_iff.2 ha⟩
    | yes | no => exact ⟨_, List.mem_cons_of_mem _ List.mem_cons_self, Rule.fires_iff.2 ha⟩

end Repair

/-! ## Files -/

variable {σ : Type}

/-- Different texts are written differently. -/
theorem toUTF8_inj {a b : String} (h : a.toUTF8 = b.toUTF8) : a = b := by
  have hread := congrArg String.fromUTF8? h
  rw [Action.fromUTF8?_toUTF8, Action.fromUTF8?_toUTF8] at hread
  exact Option.some.inj hread

/-- **A repair touches what it matches, and line ends**: a repair of a file of text with the rules for
compiling comes to an end. It leaves all files as they are where it has no rule for the failure. Where it
has one, it replaces the spans that are matched, keeps every other character, and unifies the line ends.
So the file holds the text with the matched spans replaced and nothing else changed if and only if the
text has no carriage return. -/
theorem repair_touches_matches (file : Path) (message : String) (s : Session σ)
    {content : ByteArray} {original : String}
    (hread : s.files.read s.workingDirectory file = .ok content)
    (hutf8 : String.fromUTF8? content = some original) :
    ∃ o t, repairFile file message Repair.compileRules s = .ok o t ∧
      ((¬ ∃ a, Repair.CalledFor message a) → t.files = s.files) ∧
      ((∃ a, Repair.CalledFor message a) → ∃ new, Repair.Edited message original.toList new ∧
        t.files.read s.workingDirectory file =
          .ok (String.ofList (Text.unifyNewlines new)).toUTF8 ∧
        (t.files.read s.workingDirectory file = .ok (String.ofList new).toUTF8 ↔
          '\r' ∉ original.toList)) := by
  have htext := FileTree.text_of_read hread (Action.decode_of_valid hutf8)
  by_cases hcalled : ∃ a, Repair.CalledFor message a
  · have hfires := Repair.firing_compileRules_ne_nil_iff.2 hcalled
    obtain ⟨files, hwrite, hnew⟩ := FileTree.write_of_read hread
      (Repair.compileRules.attempt (.ofList (Text.unifyNewlines original.toList)) message).text.toUTF8
    refine ⟨_, _, repairFile_of_fires htext hfires hwrite, fun hnone => absurd hcalled hnone, fun _ => ?_⟩
    have hedited := Repair.edited_patched message original.toList
    have hpatched : (Repair.compileRules.attempt
        (.ofList (Text.unifyNewlines original.toList)) message).text =
        .ofList (Text.unifyNewlines (Repair.compileRules.patched original.toList message)) := by
      rw [Repair.Policy.text_attempt, Repair.Policy.repaired, String.toList_ofList,
        ← Repair.patched_unifyNewlines]
      rfl
    rw [hpatched] at hnew
    refine ⟨_, hedited, hnew, ?_⟩
    rw [← hedited.mem_return_iff, ← Text.unifyNewlines_eq_self_iff]
    constructor
    · intro hsame
      have hbytes := Except.ok.inj (hnew.symm.trans hsame)
      exact String.ofList_inj.1 (toUTF8_inj hbytes)
    · intro hsame
      rw [hsame] at hnew
      exact hnew
  · have hsilent : Repair.compileRules.firing message = [] :=
      not_not.1 (mt Repair.firing_compileRules_ne_nil_iff.1 hcalled)
    exact ⟨_, _, repairFile_of_silent htext hsilent, fun _ => rfl, fun h => absurd h hcalled⟩

theorem repair_touches_matches_stub :
    ∃ o t, repairFile (Path.ofText "/project" / "ServiceTest.kt") "Unit but Long" Repair.compileRules
        (.ofTest "returns Unit".toUTF8) = .ok o t ∧
      ((¬ ∃ a, Repair.CalledFor "Unit but Long" a) →
        t.files = (Session.ofTest "returns Unit".toUTF8).files) ∧
      ((∃ a, Repair.CalledFor "Unit but Long" a) → ∃ new,
        Repair.Edited "Unit but Long" "returns Unit".toList new ∧
        t.files.read (Session.ofTest "returns Unit".toUTF8).workingDirectory
          (Path.ofText "/project" / "ServiceTest.kt") =
            .ok (String.ofList (Text.unifyNewlines new)).toUTF8 ∧
        (t.files.read (Session.ofTest "returns Unit".toUTF8).workingDirectory
          (Path.ofText "/project" / "ServiceTest.kt") = .ok (String.ofList new).toUTF8 ↔
            '\r' ∉ "returns Unit".toList)) :=
  repair_touches_matches _ _ _ (Session.read_ofTest _) (Action.fromUTF8?_toUTF8 _)

/-- A line that ends in a carriage return, in front of a stub: repairing the stub unifies the line
ends, though the carriage return is not matched. -/
theorem carriageReturn_unified :
    ∃ o t, repairFile (Path.ofText "/project" / "ServiceTest.kt") "Unit but Long" Repair.compileRules
        (.ofTest "a\r\nreturns Unit".toUTF8) = .ok o t ∧
      t.files.read [] (Path.ofText "/project" / "ServiceTest.kt") = .ok "a\nreturns 1L".toUTF8 ∧
      Repair.Edited "Unit but Long" "a\r\nreturns Unit".toList "a\r\nreturns 1L".toList := by
  refine ⟨_, _, rfl, rfl, ?_⟩
  have hpatched : Repair.compileRules.patched "a\r\nreturns Unit".toList "Unit but Long" =
      "a\r\nreturns 1L".toList := by decide
  exact hpatched ▸ Repair.edited_patched _ _

end Testsmith
