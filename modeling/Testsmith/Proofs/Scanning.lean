import Mathlib.Data.List.Forall2
import Mathlib.Data.List.TakeWhile
import Testsmith.Extraction.Source

/-!
# Scanning known texts

What the scanners do on a text whose pieces are known. A run is read to its end because the next piece
starts with no character of its class, blanks are dropped around a text that neither starts nor ends with
one, and the matches of a reader are those of a text without the pieces in which it never matches
(`allMatches_append_of_silent`).
-/

namespace Testsmith.Text

/-! ## Classes of characters -/

/-- What is said of the characters of a text is decided along the text, not over all characters. -/
instance (priority := high) decidableForallMem (P : Char → Prop) [DecidablePred P] (x : List Char) :
    Decidable (∀ c ∈ x, P c) :=
  List.decidableBAll P x

/-- The code points of the blanks. -/
def blankCodes : List Nat :=
  [9, 10, 11, 12, 13, 28, 29, 30, 31, 32, 0x85, 0xA0, 0x1680, 0x2000, 0x2001, 0x2002, 0x2003, 0x2004,
    0x2005, 0x2006, 0x2007, 0x2008, 0x2009, 0x200A, 0x2028, 0x2029, 0x202F, 0x205F, 0x3000]

theorem toNat_mem_blankCodes {c : Char} (h : isBlank c = true) : c.toNat ∈ blankCodes := by
  simp only [isBlank, Bool.or_eq_true, Bool.and_eq_true, decide_eq_true_eq, beq_iff_eq] at h
  simp only [blankCodes, List.mem_cons, List.not_mem_nil, or_false]
  omega

theorem not_blank_of_codes {p : Char → Bool} (h : ∀ n ∈ blankCodes, p (Char.ofNat n) = false)
    {c : Char} (hc : isBlank c = true) : p c = false := by
  have hn := h c.toNat (toNat_mem_blankCodes hc)
  rwa [Char.ofNat_toNat] at hn

/-- Blanks are no word characters. -/
theorem isWord_of_isBlank {c : Char} (h : isBlank c = true) : isWord c = false :=
  not_blank_of_codes (by decide +kernel) h

/-- Where blanks are not of a class, what is of the class is no blank. -/
theorem isBlank_of_class {p : Char → Bool} (h : ∀ c, isBlank c = true → p c = false) {c : Char}
    (hc : p c = true) : isBlank c = false := by
  by_cases hblank : isBlank c = true
  · rw [h c hblank] at hc
    cases hc
  · simpa using hblank

theorem isBlank_of_isWord {c : Char} (h : isWord c = true) : isBlank c = false :=
  isBlank_of_class (fun _ => isWord_of_isBlank) h

theorem not_mem_of_class {p : Char → Bool} {x : List Char} {c : Char}
    (hx : ∀ c ∈ x, p c = true) (hc : p c = false) : c ∉ x := by
  intro h
  rw [hx c h] at hc
  cases hc

/-! ## Runs -/

variable {p : Char → Bool} {x y rest : List Char}

theorem takeWhile_append (hx : ∀ c ∈ x, p c = true)
    (hrest : ∀ c, rest.head? = some c → p c = false) : (x ++ rest).takeWhile p = x := by
  rw [List.takeWhile_append_of_pos hx]
  cases rest with
  | nil => exact List.append_nil x
  | cons c rest => rw [List.takeWhile_cons, hrest c rfl]; exact List.append_nil x

theorem dropWhile_append (hx : ∀ c ∈ x, p c = true)
    (hrest : ∀ c, rest.head? = some c → p c = false) : (x ++ rest).dropWhile p = rest := by
  rw [List.dropWhile_append_of_pos hx]
  cases rest with
  | nil => rfl
  | cons c rest => rw [List.dropWhile_cons, hrest c rfl]; rfl

theorem span1?_append_of_stop (hx : ∀ c ∈ x, p c = true) (hne : x ≠ [])
    (hrest : ∀ c, rest.head? = some c → p c = false) : span1? p (x ++ rest) = some (x, rest) := by
  unfold span1?
  rw [takeWhile_append hx hrest, dropWhile_append hx hrest]
  split
  · contradiction
  · rfl

theorem skip1?_append_of_stop (hx : ∀ c ∈ x, p c = true) (hne : x ≠ [])
    (hrest : ∀ c, rest.head? = some c → p c = false) : skip1? p (x ++ rest) = some rest := by
  obtain ⟨c, x, rfl⟩ := List.exists_cons_of_ne_nil hne
  have hc : p c = true := hx c List.mem_cons_self
  have htail : ∀ d ∈ x, p d = true := fun d hd => hx d (List.mem_cons_of_mem c hd)
  rw [List.cons_append, skip1?, if_pos hc, dropWhile_append htail hrest]

theorem dropWhile_append_cons {c : Char} (hc : p c = false) (x y : List Char) :
    (x ++ c :: y).dropWhile p = x.dropWhile p ++ c :: y := by
  induction x with
  | nil => rw [List.nil_append, List.dropWhile_cons, hc]; rfl
  | cons d x ih =>
    rw [List.cons_append, List.dropWhile_cons, List.dropWhile_cons]
    split
    · exact ih
    · rfl

theorem takeWhile_append_cons {c : Char} (hx : ∀ d ∈ x, p d = true) (hc : p c = true)
    (y : List Char) : (x ++ c :: y).takeWhile p = x ++ c :: y.takeWhile p := by
  rw [List.takeWhile_append_of_pos hx, List.takeWhile_cons, if_pos hc]

theorem bne_of_not_mem {mark : Char} (hx : mark ∉ x) : ∀ c ∈ x, (c != mark) = true := by
  intro c hc
  simpa using ne_of_mem_of_not_mem hc hx

section CutAt

variable {mark : Char} (hx : mark ∉ x)

include hx

theorem cutAt_append (y : List Char) : cutAt mark (x ++ mark :: y) = (x, y) := by
  have hall := bne_of_not_mem hx
  have hstop : ∀ c, (mark :: y).head? = some c → (c != mark) = false := by
    rintro c ⟨⟩
    simp
  rw [cutAt, takeWhile_append hall hstop, dropWhile_append hall hstop]
  rfl

theorem cutAt_of_not_mem : cutAt mark x = (x, []) := by
  have hall := bne_of_not_mem hx
  rw [cutAt, List.takeWhile_eq_self_iff.2 hall, List.dropWhile_eq_nil_iff.2 hall]
  rfl

end CutAt

theorem prefix_takeWhile (h : x <+: y) : x.takeWhile p <+: y.takeWhile p := by
  obtain ⟨z, rfl⟩ := h
  rw [List.takeWhile_append]
  split
  · exact (List.takeWhile_prefix p).trans (List.prefix_append x _)
  · exact List.prefix_rfl

/-! ## Words in front -/

theorem after?_append (word : String) (rest : List Char) :
    after? word (word.toList ++ rest) = some rest := by
  simp [after?]

theorem eq_append_of_after? {word : String} {text rest : List Char}
    (h : after? word text = some rest) : text = word.toList ++ rest := by
  unfold after? at h
  split at h
  · next hword =>
    obtain ⟨behind, rfl⟩ := List.isPrefixOf_iff_prefix.1 hword
    cases h
    rw [List.drop_left]
  · cases h

theorem after?_eq_none {word : String} {text : List Char} (h : ¬ word.toList <+: text) :
    after? word text = none := by
  rw [after?, if_neg (by simpa using h)]

/-- A word in front does not reach over the end of a piece, where something follows that is not in it. -/
theorem prefix_of_prefix_append {word : List Char} (h : word <+: x ++ rest)
    (hrest : ∀ c, rest.head? = some c → c ∉ word) : word <+: x := by
  obtain ⟨behind, htext⟩ := h
  rcases List.append_eq_append_iff.1 htext with ⟨w, hx, -⟩ | ⟨w, hword, hbehind⟩
  · exact ⟨w, hx.symm⟩
  · cases w with
    | nil => exact ⟨[], by rw [hword, List.append_nil, List.append_nil]⟩
    | cons c w => exact absurd (by rw [hword]; simp) (hrest c (by rw [hbehind]; rfl))

/-! ## Joined parts -/

theorem intercalate_append (sep : Char) {x y : List (List Char)} (hx : x ≠ []) (hy : y ≠ []) :
    [sep].intercalate (x ++ y) = [sep].intercalate x ++ sep :: [sep].intercalate y := by
  induction x with
  | nil => exact absurd rfl hx
  | cons part x ih =>
    cases x with
    | nil =>
      obtain ⟨next, others, rfl⟩ := List.exists_cons_of_ne_nil hy
      simp [List.intercalate_cons_cons]
    | cons next x =>
      have htail := ih (List.cons_ne_nil next x)
      rw [List.cons_append] at htail
      simp [List.intercalate_cons_cons, htail]

/-! ## Trimming -/

theorem trimStart_append (hx : ∀ c ∈ x, isBlank c = true) (y : List Char) :
    trimStart (x ++ y) = trimStart y :=
  List.dropWhile_append_of_pos hx

theorem trimStart_of_head (h : ∀ c, x.head? = some c → isBlank c = false) : trimStart x = x :=
  dropWhile_append (fun _ hc => absurd hc List.not_mem_nil) h

theorem trimEnd_append (h : ∀ c, x.getLast? = some c → isBlank c = false)
    (hy : ∀ c ∈ y, isBlank c = true) : trimEnd (x ++ y) = x := by
  have hlast : ∀ c, x.reverse.head? = some c → isBlank c = false := by
    intro c hc
    exact h c (by rwa [List.head?_reverse] at hc)
  unfold trimEnd
  rw [List.reverse_append, dropWhile_append (by simpa using hy) hlast, List.reverse_reverse]

theorem trimStart_append_cons {c : Char} (hc : isBlank c = false) (x y : List Char) :
    trimStart (x ++ c :: y) = trimStart x ++ c :: y :=
  dropWhile_append_cons hc x y

theorem trimEnd_append_cons {c : Char} (hc : isBlank c = false) (x y : List Char) :
    trimEnd (x ++ c :: y) = x ++ c :: trimEnd y := by
  have hreverse : (x ++ c :: y).reverse = y.reverse ++ c :: x.reverse := by simp
  unfold trimEnd
  rw [hreverse, dropWhile_append_cons hc]
  simp

theorem trim_append_cons {c : Char} (hc : isBlank c = false) (hx : ∀ d ∈ x, isBlank d = true)
    (y : List Char) : trim (x ++ c :: y) = c :: trimEnd y := by
  have hhead : ∀ d, (c :: y).head? = some d → isBlank d = false := by
    rintro d ⟨⟩
    exact hc
  rw [trim, trimStart_append hx, trimStart_of_head hhead]
  exact trimEnd_append_cons hc [] y

/-- The blanks at the start of a text. -/
theorem exists_trimStart (x : List Char) :
    ∃ gap, x = gap ++ trimStart x ∧ ∀ c ∈ gap, isBlank c = true :=
  ⟨x.takeWhile isBlank, List.takeWhile_append_dropWhile.symm,
    List.all_eq_true.1 List.all_takeWhile⟩

/-- The blanks at the end of a text. -/
theorem exists_trimEnd (x : List Char) :
    ∃ gap, x = trimEnd x ++ gap ∧ ∀ c ∈ gap, isBlank c = true := by
  obtain ⟨gap, hgap, hblank⟩ := exists_trimStart x.reverse
  have hreverse := congrArg List.reverse hgap
  rw [List.reverse_reverse, List.reverse_append] at hreverse
  exact ⟨gap.reverse, hreverse, by simpa using hblank⟩

theorem head?_trimStart (x : List Char) : ∀ c, (trimStart x).head? = some c → isBlank c = false := by
  intro c hc
  have hhead := List.head?_dropWhile_not isBlank x
  rw [trimStart] at hc
  simpa [hc] using hhead

theorem getLast?_trimEnd (x : List Char) : ∀ c, (trimEnd x).getLast? = some c → isBlank c = false := by
  intro c hc
  rw [trimEnd, List.getLast?_reverse] at hc
  exact head?_trimStart x.reverse c hc

/-- The blanks around a text. -/
theorem exists_trim (x : List Char) : ∃ before after, x = before ++ (trim x ++ after) ∧
    (∀ c ∈ before, isBlank c = true) ∧ ∀ c ∈ after, isBlank c = true := by
  obtain ⟨before, hstart, hbefore⟩ := exists_trimStart x
  obtain ⟨after, hend, hafter⟩ := exists_trimEnd (trimStart x)
  rw [hend] at hstart
  exact ⟨before, after, hstart, hbefore, hafter⟩

/-- The text neither starts nor ends with a blank. -/
structure Tight (x : List Char) : Prop where
  ne_nil : x ≠ []
  head : ∀ c, x.head? = some c → isBlank c = false
  last : ∀ c, x.getLast? = some c → isBlank c = false

theorem Tight.of_forall (hne : x ≠ []) (h : ∀ c ∈ x, isBlank c = false) : Tight x :=
  ⟨hne, fun c hc => h c (List.mem_of_head? hc), fun c hc => h c (List.mem_of_getLast? hc)⟩

/-- What trimming leaves of a text is tight, where it leaves something. -/
theorem tight_trim (h : trim x ≠ []) : Tight (trim x) := by
  refine ⟨h, fun c hc => ?_, getLast?_trimEnd (trimStart x)⟩
  obtain ⟨gap, hgap, -⟩ := exists_trimEnd (trimStart x)
  apply head?_trimStart x c
  rw [hgap, List.head?_append]
  exact Option.or_eq_some_iff.2 (.inl hc)

/-- Trimming leaves nothing of blanks, and of blanks only. -/
theorem trim_eq_nil_iff : trim x = [] ↔ ∀ c ∈ x, isBlank c = true := by
  constructor
  · intro h
    obtain ⟨before, after, hx, hbefore, hafter⟩ := exists_trim x
    rw [hx, h]
    simpa [or_imp, forall_and] using ⟨hbefore, hafter⟩
  · intro h
    rw [trim, ← List.append_nil x, trimStart_append h]
    rfl

theorem Tight.head_append (h : Tight x) (y : List Char) :
    ∀ c, (x ++ y).head? = some c → isBlank c = false := by
  intro c hc
  obtain ⟨d, x, rfl⟩ := List.exists_cons_of_ne_nil h.ne_nil
  exact h.head c hc

theorem Tight.last_append (h : Tight x) (y : List Char) :
    ∀ c, (y ++ x).getLast? = some c → isBlank c = false := by
  intro c hc
  obtain ⟨last, hlast⟩ := Option.ne_none_iff_exists'.1 (mt List.getLast?_eq_none_iff.1 h.ne_nil)
  rw [List.getLast?_append, hlast, Option.some_or] at hc
  exact h.last c (hlast.trans hc)

/-- Trimming takes the blanks around a tight text away. -/
theorem Tight.trim_eq (h : Tight x) (before after : List Char)
    (hbefore : ∀ c ∈ before, isBlank c = true) (hafter : ∀ c ∈ after, isBlank c = true) :
    trim (before ++ (x ++ after)) = x := by
  unfold trim
  rw [trimStart_append hbefore, trimStart_of_head (h.head_append after), trimEnd_append h.last hafter]

/-! ## Places -/

/-- What is left of a text has a property at each of its places, where some rest follows. -/
def AtEach (P : List Char → Prop) (x rest : List Char) : Prop :=
  ∀ u v, x = u ++ v → v ≠ [] → P (v ++ rest)

section Places

variable {P Q : List Char → Prop}

theorem AtEach.imp (h : AtEach P x rest) (hPQ : ∀ text, P text → Q text) : AtEach Q x rest :=
  fun u v huv hv => hPQ _ (h u v huv hv)

theorem AtEach.append (hx : AtEach P x (y ++ rest)) (hy : AtEach P y rest) :
    AtEach P (x ++ y) rest := by
  intro u v huv hv
  rcases List.append_eq_append_iff.1 huv with ⟨w, -, hw⟩ | ⟨w, hx', hv'⟩
  · exact hy w v hw hv
  · rw [hv', List.append_assoc]
    by_cases hne : w = []
    · rw [hne, List.nil_append]
      exact hy [] y rfl (by rintro rfl; exact hv (by rw [hv', hne]; rfl))
    · exact hx u w hx' hne

theorem AtEach.cons {c : Char} (hc : P (c :: (x ++ rest))) (hx : AtEach P x rest) :
    AtEach P (c :: x) rest := by
  intro u v huv hv
  cases u with
  | nil => rw [List.nil_append] at huv; rw [← huv]; exact hc
  | cons d u =>
    rw [List.cons_append, List.cons.injEq] at huv
    exact hx u v huv.2 hv

theorem atEach_nil : AtEach P [] rest :=
  fun _ _ huv hv => absurd (List.append_eq_nil_iff.1 huv.symm).2 hv

/-- A property that only the first character is asked for. -/
theorem atEach_of_forall (h : ∀ c ∈ x, ∀ text, P (c :: text)) : AtEach P x rest := by
  intro u v huv hv
  obtain ⟨c, v, rfl⟩ := List.exists_cons_of_ne_nil hv
  exact h c (by rw [huv]; simp) (v ++ rest)

end Places

/-! ## The leftmost match -/

section Leftmost

variable {α : Type} {p : Pattern α} {before : Option Char} {x rest text : List Char} {value : α}

theorem getLast?_cons_or (c : Char) (x : List Char) (before : Option Char) :
    (c :: x).getLast?.or before = x.getLast?.or (some c) := by
  rw [List.getLast?_cons]
  cases x.getLast? <;> rfl

theorem matchFrom?_of_some {found : α × Nat} (h : p before text = some found) :
    matchFrom? p before text = some found.1 := by
  cases text with
  | nil => rw [matchFrom?, h]; rfl
  | cons c text => rw [matchFrom?, h]

theorem matchFrom?_cons_of_none {c : Char} (h : p before (c :: text) = none) :
    matchFrom? p before (c :: text) = matchFrom? p (some c) text := by
  rw [matchFrom?, h]

/-- A piece in which the pattern holds nowhere is passed over. -/
theorem matchFrom?_append_of_silent
    (h : ∀ u v, x = u ++ v → v ≠ [] → p (u.getLast?.or before) (v ++ rest) = none) :
    matchFrom? p before (x ++ rest) = matchFrom? p (x.getLast?.or before) rest := by
  induction x generalizing before with
  | nil => rfl
  | cons c x ih =>
    have hc : p before (c :: (x ++ rest)) = none := h [] (c :: x) rfl (List.cons_ne_nil c x)
    rw [List.cons_append, matchFrom?_cons_of_none hc, getLast?_cons_or]
    refine ih fun u v huv hv => ?_
    rw [← getLast?_cons_or c u before]
    exact h (c :: u) v (by rw [huv]; rfl) hv

/-- What stands before a place does not matter to a reader. -/
theorem matchFrom?_ofReader (read : List Char → Option (α × List Char)) (before : Option Char)
    (text : List Char) : matchFrom? (.ofReader read) before text = match? (.ofReader read) text := by
  cases text <;> rfl

/-- A reader finds in a text what it finds behind a piece in which it reads nothing. -/
theorem match?_append_of_silent {read : List Char → Option (α × List Char)}
    (h : AtEach (fun text => read text = none) x rest) :
    match? (.ofReader read) (x ++ rest) = match? (.ofReader read) rest := by
  rw [match?, matchFrom?_append_of_silent fun u v huv hv => ?_, matchFrom?_ofReader]
  rw [Pattern.ofReader, h u v huv hv]
  rfl

theorem match?_ofReader_of_some {read : List Char → Option (α × List Char)} {found : α × List Char}
    (h : read text = some found) : match? (.ofReader read) text = some found.1 := by
  have hplace : Pattern.ofReader read none text =
      some (found.1, text.length - found.2.length) := by
    rw [Pattern.ofReader, h]
    rfl
  exact matchFrom?_of_some hplace

/-- The value that is found is the one of a place, and the pattern holds nowhere in front of it. -/
theorem exists_of_matchFrom? (h : matchFrom? p before text = some value) :
    ∃ x rest width, text = x ++ rest ∧ p (x.getLast?.or before) rest = some (value, width) ∧
      ∀ u v, x = u ++ v → v ≠ [] → p (u.getLast?.or before) (v ++ rest) = none := by
  have hnil : ∀ u v : List Char, [] = u ++ v → ¬ v ≠ [] :=
    fun u v huv hv => hv (List.append_eq_nil_iff.1 huv.symm).2
  induction text generalizing before with
  | nil =>
    obtain ⟨⟨_, width⟩, hp, rfl⟩ := Option.map_eq_some_iff.1 h
    exact ⟨[], [], width, rfl, hp, fun u v huv hv => absurd hv (hnil u v huv)⟩
  | cons c text ih =>
    cases hp : p before (c :: text) with
    | some found =>
      rw [matchFrom?_of_some hp] at h
      cases h
      exact ⟨[], c :: text, found.2, rfl, hp, fun u v huv hv => absurd hv (hnil u v huv)⟩
    | none =>
      rw [matchFrom?_cons_of_none hp] at h
      obtain ⟨x, rest, width, rfl, hplace, hfront⟩ := ih h
      refine ⟨c :: x, rest, width, rfl, by rwa [getLast?_cons_or], fun u v huv hv => ?_⟩
      cases u with
      | nil => rw [List.nil_append] at huv; rw [← huv]; exact hp
      | cons d u =>
        rw [List.cons_append, List.cons.injEq] at huv
        obtain ⟨rfl, huv⟩ := huv
        rw [getLast?_cons_or]
        exact hfront u v huv hv

theorem exists_of_match? (h : match? p text = some value) :
    ∃ x rest width, text = x ++ rest ∧ p x.getLast? rest = some (value, width) ∧
      ∀ u v, x = u ++ v → v ≠ [] → p u.getLast? (v ++ rest) = none := by
  have hfrom := exists_of_matchFrom? h
  simpa only [Option.or_none] using hfrom

/-- Where nothing is found, the pattern holds nowhere. -/
theorem eq_none_of_matchFrom? (h : matchFrom? p before (x ++ rest) = none) :
    p (x.getLast?.or before) rest = none := by
  induction x generalizing before with
  | nil =>
    cases hp : p before rest with
    | none => exact hp
    | some found => rw [List.nil_append, matchFrom?_of_some hp] at h; cases h
  | cons c x ih =>
    cases hp : p before (c :: (x ++ rest)) with
    | some found => rw [List.cons_append, matchFrom?_of_some hp] at h; cases h
    | none =>
      rw [List.cons_append, matchFrom?_cons_of_none hp] at h
      rw [getLast?_cons_or]
      exact ih h

end Leftmost

/-! ## All matches -/

/-- The values that are found are those of places, of which each stands behind the one before. -/
theorem forall₂_matchesFrom {α : Type} (p : Pattern α) (before : Option Char) (covered : Nat)
    (text : List Char) : ∃ fronts : List (List Char), fronts.Pairwise (·.length < ·.length) ∧
      List.Forall₂ (fun value front => ∃ rest width, text = front ++ rest ∧
        p (front.getLast?.or before) rest = some (value, width))
        (matchesFrom p before covered text) fronts := by
  induction text generalizing before covered with
  | nil => exact ⟨[], .nil, by rw [matchesFrom]; exact .nil⟩
  | cons c text ih =>
    have hlater : ∀ covered, ∃ fronts : List (List Char), fronts.Pairwise (·.length < ·.length) ∧
        (∀ front ∈ fronts, 0 < front.length) ∧
        List.Forall₂ (fun value front => ∃ rest width, c :: text = front ++ rest ∧
          p (front.getLast?.or before) rest = some (value, width))
          (matchesFrom p (some c) covered text) fronts := by
      intro covered
      obtain ⟨fronts, hordered, hplaces⟩ := ih (some c) covered
      refine ⟨fronts.map (c :: ·), ?_, by simp, ?_⟩
      · rw [List.pairwise_map]
        exact hordered.imp Nat.succ_lt_succ
      · rw [List.forall₂_map_right_iff]
        apply hplaces.imp
        rintro value front ⟨rest, width, rfl, hp⟩
        exact ⟨rest, width, rfl, by rwa [getLast?_cons_or]⟩
    cases covered with
    | succ covered =>
      obtain ⟨fronts, hordered, -, hplaces⟩ := hlater covered
      exact ⟨fronts, hordered, hplaces⟩
    | zero =>
      rw [matchesFrom]
      split
      · next found width hp =>
        obtain ⟨fronts, hordered, hbehind, hplaces⟩ := hlater (width - 1)
        refine ⟨[] :: fronts, hordered.cons hbehind, .cons ?_ hplaces⟩
        exact ⟨c :: text, width, rfl, hp⟩
      · obtain ⟨fronts, hordered, -, hplaces⟩ := hlater 0
        exact ⟨fronts, hordered, hplaces⟩

theorem forall₂_allMatches {α : Type} (p : Pattern α) (text : List Char) :
    ∃ fronts : List (List Char), fronts.Pairwise (·.length < ·.length) ∧
      List.Forall₂ (fun value front => ∃ rest width, text = front ++ rest ∧
        p front.getLast? rest = some (value, width)) (allMatches p text) fronts := by
  have hplaces := forall₂_matchesFrom p none 0 text
  simp only [Option.or_none] at hplaces
  exact hplaces

theorem exists_of_mem_allMatches {α : Type} {p : Pattern α} {value : α} {text : List Char}
    (h : value ∈ allMatches p text) :
    ∃ x rest width, text = x ++ rest ∧ p x.getLast? rest = some (value, width) := by
  obtain ⟨fronts, -, hplaces⟩ := forall₂_allMatches p text
  obtain ⟨i, hi, rfl⟩ := List.getElem_of_mem h
  exact ⟨_, hplaces.get hi (hplaces.length_eq ▸ hi)⟩

section Passing

variable {α : Type} {p : Pattern α} {before : Option Char} {x rest text : List Char}

theorem matchesFrom_cons_of_none {c : Char} (h : p before (c :: text) = none) :
    matchesFrom p before 0 (c :: text) = matchesFrom p (some c) 0 text := by
  rw [matchesFrom, h]

/-- What belongs to the match before is passed over. -/
theorem matchesFrom_covered (before : Option Char) (x rest : List Char) :
    matchesFrom p before x.length (x ++ rest) = matchesFrom p (x.getLast?.or before) 0 rest := by
  induction x generalizing before with
  | nil => rfl
  | cons c x ih =>
    rw [List.length_cons, List.cons_append, matchesFrom, ih, getLast?_cons_or]

theorem matchesFrom_append_of_some {value : α} (hne : x ≠ [])
    (h : p before (x ++ rest) = some (value, x.length)) :
    matchesFrom p before 0 (x ++ rest) = value :: matchesFrom p (x.getLast?.or before) 0 rest := by
  obtain ⟨c, x, rfl⟩ := List.exists_cons_of_ne_nil hne
  rw [List.cons_append] at h ⊢
  rw [matchesFrom, h]
  dsimp only
  rw [List.length_cons, Nat.add_sub_cancel, matchesFrom_covered, getLast?_cons_or]

end Passing

/-! ## Matches of a reader -/

section Matches

variable {α : Type} {read : List Char → Option (α × List Char)}

/-- A reader covers what stands in front of what it leaves. -/
theorem ofReader_append {value : α} (h : read (x ++ rest) = some (value, rest)) (before : Option Char) :
    Pattern.ofReader read before (x ++ rest) = some (value, x.length) := by
  rw [Pattern.ofReader, h]
  simp

/-- What stands before a place does not matter to a reader. -/
theorem matchesFrom_ofReader (before : Option Char) (covered : Nat) (text : List Char) :
    matchesFrom (.ofReader read) before covered text =
      matchesFrom (.ofReader read) none covered text := by
  cases text with
  | nil => simp [matchesFrom]
  | cons c text => cases covered <;> rfl

theorem allMatches_cons_of_none {c : Char} {text : List Char} (h : read (c :: text) = none) :
    allMatches (.ofReader read) (c :: text) = allMatches (.ofReader read) text := by
  have hplace : Pattern.ofReader read none (c :: text) = none := by
    rw [Pattern.ofReader, h]
    rfl
  rw [allMatches, matchesFrom_cons_of_none hplace]
  exact matchesFrom_ofReader _ _ _

theorem allMatches_append_of_some {value : α} (hne : x ≠ [])
    (h : read (x ++ rest) = some (value, rest)) :
    allMatches (.ofReader read) (x ++ rest) = value :: allMatches (.ofReader read) rest := by
  rw [allMatches, matchesFrom_append_of_some hne (ofReader_append h none), matchesFrom_ofReader]
  rfl

/-- A piece in which the reader never matches changes no match. -/
theorem allMatches_append_of_silent
    (h : AtEach (fun text => read text = none) x rest) :
    allMatches (.ofReader read) (x ++ rest) = allMatches (.ofReader read) rest := by
  induction x with
  | nil => rfl
  | cons c x ih =>
    have hc : read (c :: (x ++ rest)) = none := h [] (c :: x) rfl (List.cons_ne_nil c x)
    rw [List.cons_append, allMatches_cons_of_none hc]
    exact ih fun u v huv hv => h (c :: u) v (by rw [huv]; rfl) hv

end Matches

end Testsmith.Text
