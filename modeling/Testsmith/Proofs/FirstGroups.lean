import Testsmith.Proofs.Balance

/-!
# The first group of a text

The first parenthesised group of a text is cut out by counting round brackets alone, from the first
opening one on: no other bracket matters, and neither does what stands behind the group. A text inside of
a group closes all brackets that are open in front of it, and no prefix of it closes more than are open
(`Closes`). Every character that is passed takes this property from the text to the rest of it, with the
count that the scan has then (`closes_cons_iff`). So the scan stops behind such a text, at the bracket
that closes the group, and nowhere else (`groupFrom_eq_some_iff`).

A text that has a first group has only one, and where it has none, nothing is found
(`first_group_exact`).
-/

namespace Testsmith.Signature

open Text

/-! ## Round brackets -/

/-- Round brackets are nested: no prefix closes more of them than it opens, and as many are closed as
opened. -/
structure RoundBalanced (text : List Char) : Prop where
  prefixes : ∀ front, front <+: text → front.count ')' ≤ front.count '('
  total : text.count '(' = text.count ')'

/-- Behind some open round brackets: no prefix closes more than are open, and all are closed at the
end. -/
structure Closes (opened : Nat) (text : List Char) : Prop where
  prefixes : ∀ front, front <+: text → front.count ')' ≤ opened + front.count '('
  total : opened + text.count '(' = text.count ')'

theorem closes_zero_iff {text : List Char} : Closes 0 text ↔ RoundBalanced text := by
  constructor
  · rintro ⟨hprefixes, htotal⟩
    exact ⟨by simpa using hprefixes, by simpa using htotal⟩
  · rintro ⟨hprefixes, htotal⟩
    exact ⟨by simpa using hprefixes, by simpa using htotal⟩

section Step

variable {opened inner : Nat} {c : Char} {text : List Char}

theorem closes_nil_iff : Closes opened [] ↔ opened = 0 := by
  constructor
  · rintro ⟨-, htotal⟩
    exact htotal
  · rintro rfl
    refine ⟨fun front hfront => ?_, rfl⟩
    rw [List.prefix_nil.1 hfront]
    exact Nat.le_refl 0

/-- The character takes the number of open brackets from the one to the other. -/
theorem closes_cons_iff (h : inner + [c].count ')' = opened + [c].count '(') :
    Closes opened (c :: text) ↔ Closes inner text := by
  have hcount (a : Char) (x : List Char) : (c :: x).count a = [c].count a + x.count a := by
    rw [← List.count_append, List.singleton_append]
  constructor
  · rintro ⟨hprefixes, htotal⟩
    refine ⟨fun front hfront => ?_, ?_⟩
    · have hcons := hprefixes (c :: front) ((List.prefix_cons_inj c).2 hfront)
      rw [hcount ')', hcount '('] at hcons
      omega
    · rw [hcount ')', hcount '('] at htotal
      omega
  · rintro ⟨hprefixes, htotal⟩
    refine ⟨fun front hfront => ?_, ?_⟩
    · rcases List.prefix_cons_iff.1 hfront with rfl | ⟨rest, rfl, hrest⟩
      · exact Nat.zero_le _
      · have hcons := hprefixes rest hrest
        rw [hcount ')', hcount '(']
        omega
    · rw [hcount ')', hcount '(']
      omega

/-- A text cannot close what is not open. -/
theorem not_closes_zero_closer : ¬ Closes 0 (')' :: text) := by
  rintro ⟨hprefixes, -⟩
  have hfirst := hprefixes [')'] ⟨text, rfl⟩
  exact absurd hfirst (by decide)

end Step

/-! ## Inside and behind a group -/

section Group

variable {opened : Nat} {c : Char} {text inside after : List Char}

/-- A character that does not end the group is passed over, and stands inside of it. -/
theorem groupFrom_passes_iff {inner : Nat} {rest : List Char}
    (hpass : groupFrom opened (c :: rest) =
      (groupFrom inner rest).map fun (inside, after) => (c :: inside, after))
    (hcount : inner + [c].count ')' = opened + [c].count '(')
    (hends : Closes opened [] → c ≠ ')')
    (ih : ∀ inside, groupFrom inner rest = some (inside, after) ↔
      rest = inside ++ ')' :: after ∧ Closes inner inside) :
    groupFrom opened (c :: rest) = some (inside, after) ↔
      c :: rest = inside ++ ')' :: after ∧ Closes opened inside := by
  rw [hpass]
  cases inside with
  | nil =>
    constructor
    · intro h
      obtain ⟨⟨x, y⟩, -, heq⟩ := Option.map_eq_some_iff.1 h
      cases heq
    · rintro ⟨heq, hcloses⟩
      exact absurd (List.cons.inj heq).1 (hends hcloses)
  | cons d inside =>
    rw [List.cons_append, List.cons.injEq, Option.map_eq_some_iff]
    constructor
    · rintro ⟨⟨x, y⟩, hrest, heq⟩
      cases heq
      obtain ⟨htext, hcloses⟩ := (ih _).1 hrest
      exact ⟨⟨rfl, htext⟩, (closes_cons_iff hcount).2 hcloses⟩
    · rintro ⟨⟨rfl, htext⟩, hcloses⟩
      exact ⟨(inside, after), (ih _).2 ⟨htext, (closes_cons_iff hcount).1 hcloses⟩, rfl⟩

/-- **What the scan stops at**: the bracket behind a text that closes all brackets that were open, and
never more. -/
theorem groupFrom_eq_some_iff (opened : Nat) (text inside after : List Char) :
    groupFrom opened text = some (inside, after) ↔
      text = inside ++ ')' :: after ∧ Closes opened inside := by
  induction text generalizing opened inside with
  | nil => simp [groupFrom]
  | cons c rest ih =>
    by_cases hopen : c = '('
    · subst hopen
      exact groupFrom_passes_iff (groupFrom_opener opened rest) rfl (fun _ => by decide) (ih (opened + 1))
    by_cases hclose : c = ')'
    · subst hclose
      cases opened with
      | zero =>
        -- the group ends here, since no text goes on inside of it with this bracket
        rw [groupFrom_end, Option.some.injEq, Prod.mk.injEq]
        constructor
        · rintro ⟨rfl, rfl⟩
          exact ⟨rfl, closes_nil_iff.2 rfl⟩
        · rintro ⟨htext, hcloses⟩
          cases inside with
          | nil => exact ⟨rfl, (List.cons.inj htext).2⟩
          | cons d inside =>
            obtain rfl := (List.cons.inj htext).1
            exact absurd hcloses not_closes_zero_closer
      | succ opened =>
        refine groupFrom_passes_iff (groupFrom_closer opened rest) rfl (fun hcloses => ?_) (ih opened)
        exact absurd (closes_nil_iff.1 hcloses) (Nat.succ_ne_zero opened)
    · refine groupFrom_passes_iff (groupFrom_of_ne hopen hclose opened rest) ?_ (fun _ => hclose) (ih opened)
      rw [List.count_singleton, List.count_singleton, if_neg, if_neg]
      · simpa using hopen
      · simpa using hclose

end Group

/-! ## The first group -/

/-- A text as what stands in front of its first parenthesised group, inside of it and behind it. -/
@[ext] structure FirstGroup (text : List Char) where
  front : List Char
  inside : List Char
  after : List Char
  text_eq : text = front ++ '(' :: (inside ++ ')' :: after)
  no_opener : '(' ∉ front
  balanced : RoundBalanced inside

namespace FirstGroup

variable {text : List Char}

theorem front_eq (g : FirstGroup text) : g.front = text.takeWhile (· != '(') := by
  have htext := congrArg (List.takeWhile (· != '(')) g.text_eq
  rw [takeWhile_append (bne_of_not_mem g.no_opener) (by rintro c ⟨⟩; decide)] at htext
  exact htext.symm

theorem group?_eq (g : FirstGroup text) : group? text = some (g.inside, g.after) := by
  have hscan : groupFrom 0 (g.inside ++ ')' :: g.after) = some (g.inside, g.after) :=
    (groupFrom_eq_some_iff _ _ _ _).2 ⟨rfl, closes_zero_iff.2 g.balanced⟩
  rw [← group?_append_opener g.no_opener] at hscan
  exact (congrArg group? g.text_eq).trans hscan

end FirstGroup

theorem exists_firstGroup {text inside after : List Char} (h : group? text = some (inside, after)) :
    ∃ g : FirstGroup text, g.inside = inside ∧ g.after = after := by
  by_cases hopen : '(' ∈ text
  · obtain ⟨front, rest, htext, hfront⟩ := List.eq_append_cons_of_mem hopen
    rw [htext, group?_append_opener hfront] at h
    obtain ⟨hrest, hcloses⟩ := (groupFrom_eq_some_iff _ _ _ _).1 h
    exact ⟨⟨front, inside, after, hrest ▸ htext, hfront, closes_zero_iff.1 hcloses⟩, rfl, rfl⟩
  · rw [group?_of_not_mem hopen] at h
    cases h

/-- **The first group is found exactly.** For every text, what is found is the inside and the rest of its
first group, of which there is at most one, and nothing is found where there is none. -/
theorem first_group_exact (text : List Char) :
    (∀ inside after, group? text = some (inside, after) ↔
      ∃ g : FirstGroup text, g.inside = inside ∧ g.after = after) ∧
    Subsingleton (FirstGroup text) ∧
    (group? text = none ↔ IsEmpty (FirstGroup text)) := by
  refine ⟨fun inside after => ⟨exists_firstGroup, ?_⟩, ⟨fun g g' => ?_⟩, ?_⟩
  · rintro ⟨g, rfl, rfl⟩
    exact g.group?_eq
  · have hsame := Prod.mk.inj (Option.some.inj (g.group?_eq.symm.trans g'.group?_eq))
    exact FirstGroup.ext (g.front_eq.trans g'.front_eq.symm) hsame.1 hsame.2
  · constructor
    · intro hnone
      refine ⟨fun g => ?_⟩
      rw [g.group?_eq] at hnone
      cases hnone
    · rintro ⟨hempty⟩
      refine Option.eq_none_iff_forall_ne_some.2 fun ⟨inside, after⟩ hsome => ?_
      obtain ⟨g, -, -⟩ := exists_firstGroup hsome
      exact hempty g

/-- Brackets of other kinds do not count, and a bracket that stays open hides what follows. -/
example : group? "a) <(b[)> (c)".toList = some ("b[".toList, "> (c)".toList) ∧
    group? "a(b (c)".toList = none := by decide

end Testsmith.Signature
