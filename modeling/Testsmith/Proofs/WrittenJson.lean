import Testsmith.Json.Reader
import Testsmith.Json.Writer
import Testsmith.Proofs.Scanning

/-!
# Reading what was written

The reader takes from a laid out text the value that was written, and leaves what follows it
(`value_prettyAt`). The values are those without floating point numbers whose objects have no key twice
and whose integers have no more digits than the reader permits (`Plain`); where it sets no limit, that is
no condition on integers.

A number has no end of its own, so what follows a value must not go on with it (`Ends`). Inside a text
a value is followed by a comma or a line end, so this is a condition on the whole text only.
-/

namespace Testsmith.Json

open Text (hex hexDigit)

/-! ## Strings -/

theorem hexValue?_hexDigit {n : Nat} (h : n < 16) : hexValue? (hexDigit n) = some n := by
  revert n
  decide

/-- Four hexadecimal digits are read as the number that they write. -/
theorem hexQuad?_hex {n : Nat} (h : n < 65536) (rest : List Char) :
    hexQuad? (hex 4 n ++ rest) = some n := by
  have hdigit (m : Nat) : hexValue? (hexDigit (m % 16)) = some (m % 16) :=
    hexValue?_hexDigit (Nat.mod_lt m (by decide))
  simp only [hex, List.nil_append, List.cons_append, hexQuad?, hdigit, Option.bind_eq_bind,
    Option.bind_some, Option.pure_def, Option.some.injEq]
  omega

/-- A code point of a control character is read as that character. -/
theorem codePointEscape_hex {n : Nat} (h : n < 32) (c : Char) (rest : List Char) :
    codePointEscape (hex 4 n ++ c :: rest) = .ok (Char.ofNat n, 4) := by
  have hlong : ¬ (hex 4 n ++ c :: rest).length < 5 := by simp [hex]
  unfold codePointEscape
  rw [if_neg hlong, hexQuad?_hex (by omega)]
  dsimp only
  rw [if_neg (by omega), codePoint, if_neg (by simp; omega)]

theorem stringBody_of_escape {opening : Nat} {c : Char} {width : Nat} {rest : List Char}
    (h : escapeValue opening rest = .ok (c, width)) :
    stringBody opening 0 ('\\' :: rest) = prepend c (stringBody opening width rest) := by
  rw [stringBody, if_neg (by decide), if_pos rfl, h]

theorem stringBody_pair {opening : Nat} {c e : Char} (rest : List Char)
    (h : escapeValue opening (e :: rest) = .ok (c, 1)) :
    stringBody opening 0 (['\\', e] ++ rest) = prepend c (stringBody opening 0 rest) :=
  stringBody_of_escape h

/-- What is written for a character is read as that character. -/
theorem stringBody_escape (opening : Nat) (c d : Char) (rest : List Char) :
    stringBody opening 0 (escape c ++ d :: rest) =
      prepend c (stringBody opening 0 (d :: rest)) := by
  unfold escape
  split
  · next h => subst h; exact stringBody_pair _ rfl
  split
  · next h => subst h; exact stringBody_pair _ rfl
  split
  · next h => subst h; exact stringBody_pair _ rfl
  split
  · next h => subst h; exact stringBody_pair _ rfl
  split
  · next h => subst h; exact stringBody_pair _ rfl
  split
  · next h =>
    have hc : c = '\x08' := Char.toNat_inj.1 h
    subst hc
    exact stringBody_pair _ rfl
  split
  · next h =>
    have hc : c = '\x0c' := Char.toNat_inj.1 h
    subst hc
    exact stringBody_pair _ rfl
  split
  · next h =>
    have hvalue : escapeValue opening ('u' :: (hex 4 c.toNat ++ d :: rest)) = .ok (c, 5) := by
      show (codePointEscape (hex 4 c.toNat ++ d :: rest)).map _ = _
      rw [codePointEscape_hex h, Char.ofNat_toNat]
      rfl
    rw [List.cons_append, List.cons_append, stringBody_of_escape hvalue]
    simp [hex, stringBody]
  · next hquote hbackslash _ _ _ _ _ hcontrol =>
    rw [List.singleton_append, stringBody, if_neg hquote, if_neg hbackslash, if_neg hcontrol]

/-- What is written for a string is read as that string, up to its closing quote. -/
theorem stringBody_escaped (opening : Nat) (chars rest : List Char) :
    stringBody opening 0 (chars.flatMap escape ++ '"' :: rest) = .ok (chars, rest) := by
  induction chars with
  | nil => rfl
  | cons c chars ih =>
    obtain ⟨d, more, hmore⟩ : ∃ d more, chars.flatMap escape ++ '"' :: rest = d :: more :=
      List.exists_cons_of_ne_nil (by simp)
    rw [List.flatMap_cons, List.append_assoc, hmore, stringBody_escape, ← hmore, ih]
    rfl

theorem stringAfterQuote_escaped (s : String) (rest : List Char) :
    stringAfterQuote (s.toList.flatMap escape ++ '"' :: rest) = .ok (s, rest) := by
  unfold stringAfterQuote
  rw [stringBody_escaped]
  dsimp only
  rw [String.ofList_toList]

/-! ## Integers -/

/-- A text does not go on with a number that stands in front of it. -/
def Ends (rest : List Char) : Prop :=
  ∀ c, rest.head? = some c → c.isDigit = false ∧ c ≠ '.' ∧ c ≠ 'e' ∧ c ≠ 'E'

/-- An integer has no more digits than a reader permits. -/
def Fits (limit : Option Nat) (i : Int) : Prop :=
  ∀ most, limit = some most → (Nat.toDigits 10 i.natAbs).length ≤ most

theorem fits_none (i : Int) : Fits none i := by
  intro most h
  cases h

/-- The digits of a number do not start with a zero, but for zero itself. -/
theorem head?_toDigits {n : Nat} (h : n ≠ 0) : (Nat.toDigits 10 n).head? ≠ some '0' := by
  induction n using Nat.strongRecOn with
  | ind n ih =>
    by_cases hn : n < 10
    · rw [Nat.toDigits_of_lt_base hn]
      simpa using h
    · rw [Nat.toDigits_of_base_le (by decide) (by omega), List.head?_append,
        Option.or_of_isSome (by simp [Nat.toDigits_ne_nil])]
      exact ih (n / 10) (by omega) (by omega)

theorem digitsValue_toDigits (n : Nat) : digitsValue (Nat.toDigits 10 n) = n := by
  have h := Nat.ofDigitChars_ten_toDigits (n := n)
  rwa [Nat.ofDigitChars_eq_foldl] at h

theorem isDigit_toDigits (n : Nat) : ∀ c ∈ Nat.toDigits 10 n, c.isDigit = true :=
  fun _ hc => Nat.isDigit_of_mem_toDigits (Nat.zero_lt_succ 9) (Nat.le_refl 10) hc

section Numbers

variable {rest : List Char}

theorem integerDigits_toDigits (hends : Ends rest) (n : Nat) :
    integerDigits (Nat.toDigits 10 n ++ rest) = (Nat.toDigits 10 n, rest) := by
  have hdigits := isDigit_toDigits n
  have hrest : ∀ c, rest.head? = some c → c.isDigit = false := fun c hc => (hends c hc).1
  by_cases hn : n = 0
  · subst hn
    rw [Nat.toDigits_zero]
    rfl
  · unfold integerDigits Text.span
    split
    · next more heq =>
      have hhead := head?_toDigits hn
      obtain ⟨c, digits, hcons⟩ := List.exists_cons_of_ne_nil (Nat.toDigits_ne_nil (n := n) (b := 10))
      rw [hcons] at heq hhead
      exact absurd (congrArg some (List.cons.inj heq).1) hhead
    · rw [Text.takeWhile_append hdigits hrest, Text.dropWhile_append hdigits hrest]

theorem fractionDigits_of_ends (hends : Ends rest) : fractionDigits rest = ([], rest) := by
  unfold fractionDigits
  split
  · exact absurd rfl (hends _ rfl).2.1
  · rfl

theorem exponentPart_of_ends (hends : Ends rest) : exponentPart rest = none := by
  cases rest with
  | nil => rfl
  | cons c rest =>
    obtain ⟨-, -, he, hE⟩ := hends c rfl
    unfold exponentPart
    dsimp only
    rw [if_neg (by simp [he, hE])]

theorem unsignedNumber_toDigits {limit : Option Nat} {n : Nat}
    (hfits : ∀ most, limit = some most → (Nat.toDigits 10 n).length ≤ most) (hends : Ends rest)
    (negative : Bool) : unsignedNumber limit negative (Nat.toDigits 10 n ++ rest) =
      some (.ok (.int (if negative then -(n : Int) else n)), rest) := by
  have hlimit : limit.filter (· < (Nat.toDigits 10 n).length) = none := by
    cases limit with
    | none => rfl
    | some most => simpa using hfits most rfl
  unfold unsignedNumber
  rw [integerDigits_toDigits hends]
  split
  · next h => exact absurd (congrArg Prod.fst h) Nat.toDigits_ne_nil
  · next h =>
    cases h
    rw [fractionDigits_of_ends hends]
    dsimp only
    rw [exponentPart_of_ends hends, hlimit, digitsValue_toDigits]

theorem intText_ofNat (n : Nat) : intText n = Nat.toDigits 10 n := by
  unfold intText
  rw [Int.toString_eq_repr, Int.repr_eq_if, if_pos (Int.natCast_nonneg n), Int.toNat_natCast,
    Nat.repr_eq_ofList_toDigits, String.toList_ofList]

theorem intText_negSucc (n : Nat) :
    intText (Int.negSucc n) = '-' :: Nat.toDigits 10 (n + 1) := by
  unfold intText
  rw [Int.toString_eq_repr, Int.repr_eq_if, if_neg (by omega), String.toList_append, Int.neg_negSucc,
    Int.toNat_natCast, Nat.repr_eq_ofList_toDigits]
  simp

/-- A name has no digits, so a text with a digit in front or behind one character is no name. -/
theorem named_eq_none {text : List Char} {i : Nat} {c : Char} (hi : i < 2)
    (hget : text[i]? = some c) (hc : c.isDigit = true) : named text = none := by
  have hnames : ∀ pair ∈ names, 2 ≤ pair.1.toList.length ∧
      ∀ d ∈ pair.1.toList, d.isDigit = false := by decide
  refine List.findSome?_eq_none_iff.2 fun pair hpair => ?_
  obtain ⟨hlong, hnone⟩ := hnames pair hpair
  have hword : ¬ pair.1.toList.isPrefixOf text = true := by
    intro h
    obtain ⟨more, rfl⟩ := List.isPrefixOf_iff_prefix.1 h
    rw [List.getElem?_append_left (by omega)] at hget
    have hdigit := hnone c (List.mem_of_getElem? hget)
    rw [hc] at hdigit
    cases hdigit
  dsimp only
  rw [Text.after?, if_neg hword]
  rfl

theorem number_of_digit {limit : Option Nat} {c : Char} (hc : c.isDigit = true) (text : List Char) :
    number limit (c :: text) = unsignedNumber limit false (c :: text) := by
  unfold number
  split
  · next h =>
    cases h
    cases hc
  · rfl

theorem exists_head_toDigits (n : Nat) :
    ∃ c digits, Nat.toDigits 10 n = c :: digits ∧ c.isDigit = true := by
  obtain ⟨c, digits, hcons⟩ := List.exists_cons_of_ne_nil (Nat.toDigits_ne_nil (n := n) (b := 10))
  have hmem : c ∈ Nat.toDigits 10 n := hcons ▸ List.mem_cons_self
  exact ⟨c, digits, hcons, isDigit_toDigits n c hmem⟩

/-- What is written for an integer is read as that integer. -/
theorem scalar_intText {limit : Option Nat} {i : Int} (hfits : Fits limit i) (hends : Ends rest) :
    scalar limit (intText i ++ rest) = .ok (.int i, rest) := by
  unfold scalar
  cases i with
  | ofNat n =>
    have hnumber := unsignedNumber_toDigits hfits hends false
    obtain ⟨c, digits, hcons, hdigit⟩ := exists_head_toDigits n
    rw [Int.ofNat_eq_natCast, Int.natAbs_natCast, hcons] at hnumber
    rw [Int.ofNat_eq_natCast, intText_ofNat, hcons, named_eq_none (i := 0) (by decide) rfl hdigit]
    dsimp only
    rw [List.cons_append, number_of_digit hdigit, ← List.cons_append, hnumber]
    rfl
  | negSucc n =>
    have hnumber := unsignedNumber_toDigits hfits hends true
    obtain ⟨c, digits, hcons, hdigit⟩ := exists_head_toDigits (n + 1)
    rw [Int.natAbs_negSucc, hcons] at hnumber
    rw [intText_negSucc, hcons, named_eq_none (i := 1) (by decide) rfl hdigit]
    dsimp only
    rw [List.cons_append, number, hnumber]
    rfl

end Numbers

/-! ## Values -/

/-- A value without floating point numbers, whose integers have no more digits than a reader permits and
whose objects have no key twice. -/
inductive Plain (limit : Option Nat) : Json → Prop
  | null : Plain limit .null
  | bool (b : Bool) : Plain limit (.bool b)
  | int {i : Int} (fits : Fits limit i) : Plain limit (.int i)
  | str (s : String) : Plain limit (.str s)
  | arr {items : List Json} (plain : ∀ j ∈ items, Plain limit j) : Plain limit (.arr items)
  | obj {fields : Fields} (distinct : (fields.map (·.1)).Nodup)
      (plain : ∀ field ∈ fields, Plain limit field.2) : Plain limit (.obj fields)

section Values

variable {limit : Option Nat} {fuel : Nat} {c : Char} {text rest : List Char}

theorem scalar_null : scalar limit ("null".toList ++ rest) = .ok (.null, rest) := rfl

theorem scalar_boolText (b : Bool) : scalar limit (boolText b ++ rest) = .ok (.bool b, rest) := by
  cases b with
  | true => rfl
  | false => rfl

theorem value_of_scalar (hquote : c ≠ '"') (hbracket : c ≠ '[') (hbrace : c ≠ '\x7b') :
    value limit (fuel + 1) (c :: text) = scalar limit (c :: text) := by
  rw [value]
  · exact fun _ h => hquote (List.cons.inj h).1
  · exact fun _ h => hbracket (List.cons.inj h).1
  · exact fun _ h => hbrace (List.cons.inj h).1

theorem value_quote (s : String) :
    value limit (fuel + 1) (quote s ++ rest) = .ok (.str s, rest) := by
  unfold quote
  rw [List.cons_append, List.append_assoc, List.singleton_append, value, stringAfterQuote_escaped]

theorem value_of_items {after : List Char} {listed : List Json} (hstart : skipSpace text = c :: rest)
    (hc : c ≠ ']') (hitems : items limit fuel (c :: rest) = .ok (listed, after)) :
    value limit (fuel + 1) ('[' :: text) = .ok (.arr listed, after) := by
  rw [value, hstart]
  split
  · next h => exact absurd (List.cons.inj h).1 hc
  · rw [hitems]

theorem value_of_fields {after : List Char} {listed : Fields} (hstart : skipSpace text = c :: rest)
    (hc : c ≠ '\x7d') (hfields : fields limit fuel [] (c :: rest) = .ok (listed, after)) :
    value limit (fuel + 1) ('\x7b' :: text) = .ok (.obj listed, after) := by
  rw [value, hstart]
  split
  · next h => exact absurd (List.cons.inj h).1 hc
  · rw [hfields]

theorem skipSpace_colon : skipSpace (':' :: text) = ':' :: text := rfl

theorem items_last {item : Json} {after : List Char} (hitem : value limit fuel text = .ok (item, after))
    (hend : skipSpace after = ']' :: rest) :
    items limit (fuel + 1) text = .ok ([item], rest) := by
  simp only [items, hitem, hend]

theorem items_more {item : Json} {more : List Json} {after last : List Char}
    (hitem : value limit fuel text = .ok (item, after)) (hnext : skipSpace after = ',' :: rest)
    (hmore : items limit fuel (skipSpace rest) = .ok (more, last)) :
    items limit (fuel + 1) text = .ok (item :: more, last) := by
  simp only [items, hitem, hnext, hmore]

theorem fields_last {before : Fields} {key : String} {j : Json} {after : List Char}
    (hvalue : value limit fuel (skipSpace text) = .ok (j, after))
    (hend : skipSpace after = '\x7d' :: rest) :
    fields limit (fuel + 1) before (quote key ++ ':' :: text) = .ok (before.set key j, rest) := by
  rw [quote, List.cons_append, List.append_assoc, List.singleton_append]
  simp only [fields, stringAfterQuote_escaped, skipSpace_colon, hvalue, hend]

theorem fields_more {before known : Fields} {key : String} {j : Json} {after last : List Char}
    (hvalue : value limit fuel (skipSpace text) = .ok (j, after))
    (hnext : skipSpace after = ',' :: rest)
    (hmore : fields limit fuel (before.set key j) (skipSpace rest) = .ok (known, last)) :
    fields limit (fuel + 1) before (quote key ++ ':' :: text) = .ok (known, last) := by
  rw [quote, List.cons_append, List.append_assoc, List.singleton_append]
  simp only [fields, stringAfterQuote_escaped, skipSpace_colon, hvalue, hnext, hmore]

/-- The text of an integer starts with a hyphen or a digit. -/
theorem exists_head_intText (i : Int) : ∃ c digits, intText i = c :: digits ∧
    ∀ d, d ≠ '-' → d.isDigit = false → c ≠ d := by
  cases i with
  | ofNat n =>
    obtain ⟨c, digits, hcons, hdigit⟩ := exists_head_toDigits n
    refine ⟨c, digits, (intText_ofNat n).trans hcons, ?_⟩
    rintro d - hd rfl
    rw [hd] at hdigit
    cases hdigit
  | negSucc n => exact ⟨'-', _, intText_negSucc n, fun d hd _ => hd.symm⟩

theorem value_intText {i : Int} (hfits : Fits limit i) (hends : Ends rest) :
    value limit (fuel + 1) (intText i ++ rest) = .ok (.int i, rest) := by
  obtain ⟨c, digits, hcons, hne⟩ := exists_head_intText i
  rw [← scalar_intText hfits hends, hcons, List.cons_append]
  exact value_of_scalar (hne _ (by decide) rfl) (hne _ (by decide) rfl) (hne _ (by decide) rfl)

/-! ## Members -/

theorem skipSpace_lineBreak (depth : Nat) (text : List Char) :
    skipSpace (lineBreak depth ++ text) = skipSpace text := by
  refine List.dropWhile_append_of_pos fun c hc => ?_
  rcases List.mem_cons.1 hc with rfl | hc
  · rfl
  · rw [List.eq_of_mem_replicate hc]
    rfl

theorem skipSpace_of_head (h : isSpace c = false) : skipSpace (c :: text) = c :: text := by
  unfold skipSpace
  rw [List.dropWhile_cons_of_neg (by simp [h])]

theorem ends_cons (h : c.isDigit = false ∧ c ≠ '.' ∧ c ≠ 'e' ∧ c ≠ 'E') : Ends (c :: text) := by
  intro d hd
  cases hd
  exact h

/-- The members of a block behind the first one. -/
def following (depth : Nat) (texts : List (List Char)) : List Char :=
  texts.flatMap fun text => ',' :: (lineBreak depth ++ text)

theorem following_cons (depth : Nat) (text : List Char) (texts : List (List Char)) :
    following depth (text :: texts) =
      ',' :: (lineBreak depth ++ (text ++ following depth texts)) := by
  simp [following]

/-- No value starts with a blank, a closing bracket or a byte order mark. -/
theorem exists_head_prettyAt {j : Json} (h : Plain limit j) (depth : Nat) :
    ∃ c more, prettyAt depth j = c :: more ∧ isSpace c = false ∧ c ≠ ']' ∧
      c ≠ Char.ofNat 0xFEFF := by
  cases h with
  | null => exact ⟨'n', _, rfl, rfl, by decide, by decide⟩
  | bool b =>
    cases b with
    | true => exact ⟨'t', _, rfl, rfl, by decide, by decide⟩
    | false => exact ⟨'f', _, rfl, rfl, by decide, by decide⟩
  | @int i =>
    obtain ⟨c, digits, hcons, hne⟩ := exists_head_intText i
    refine ⟨c, digits, hcons, ?_, hne _ (by decide) rfl, hne _ (by decide) rfl⟩
    simp [isSpace, hne ' ' (by decide) rfl, hne '\t' (by decide) rfl, hne '\n' (by decide) rfl,
      hne '\r' (by decide) rfl]
  | str s => exact ⟨'"', _, rfl, rfl, by decide, by decide⟩
  | @arr items =>
    cases items with
    | nil => exact ⟨'[', _, rfl, rfl, by decide, by decide⟩
    | cons first more => exact ⟨'[', _, rfl, rfl, by decide, by decide⟩
  | @obj fields =>
    cases fields with
    | nil => exact ⟨'\x7b', _, rfl, rfl, by decide, by decide⟩
    | cons first more => exact ⟨'\x7b', _, rfl, rfl, by decide, by decide⟩

/-- A value is read from its text, whatever the text is followed by, as long as that does not go on with
a number. -/
def Readable (limit : Option Nat) (j : Json) : Prop :=
  ∀ depth fuel rest, Ends rest → 2 * (prettyAt depth j).length ≤ fuel →
    value limit fuel (prettyAt depth j ++ rest) = .ok (j, rest)

/-- What stands behind a member ends it. -/
theorem ends_following (texts : List (List Char)) (depth outer : Nat) (rest : List Char) :
    Ends (following depth texts ++ (lineBreak outer ++ rest)) := by
  cases texts with
  | nil => exact ends_cons (by decide)
  | cons text texts => exact ends_cons (by decide)

theorem skipSpace_prettyAt {j : Json} (h : Plain limit j) (depth : Nat) (rest : List Char) :
    skipSpace (prettyAt depth j ++ rest) = prettyAt depth j ++ rest := by
  obtain ⟨c, more, hcons, hspace, -⟩ := exists_head_prettyAt h depth
  rw [hcons, List.cons_append, skipSpace_of_head hspace]

variable (fuel rest) in
theorem items_prettyItems {first : Json} {more : List Json} (depth outer : Nat)
    (hplain : ∀ j ∈ more, Plain limit j) (hread : ∀ j ∈ first :: more, Readable limit j)
    (hfuel : 2 * ((prettyAt depth first).length + (following depth (prettyItems depth more)).length) <
      fuel) :
    items limit fuel (prettyAt depth first ++
      (following depth (prettyItems depth more) ++ (lineBreak outer ++ ']' :: rest))) =
        .ok (first :: more, rest) := by
  induction more generalizing first fuel with
  | nil =>
    obtain ⟨fuel, rfl⟩ := Nat.exists_eq_succ_of_ne_zero (Nat.ne_zero_of_lt hfuel)
    refine items_last (hread first List.mem_cons_self depth fuel _ ?_ (by omega)) ?_
    · exact ends_following [] depth outer _
    · exact (skipSpace_lineBreak outer _).trans (skipSpace_of_head rfl)
  | cons second more ih =>
    obtain ⟨fuel, rfl⟩ := Nat.exists_eq_succ_of_ne_zero (Nat.ne_zero_of_lt hfuel)
    rw [prettyItems, following_cons] at hfuel
    rw [prettyItems, following_cons, List.cons_append, List.append_assoc, List.append_assoc]
    simp only [List.length_cons, List.length_append] at hfuel
    refine items_more (hread first List.mem_cons_self depth fuel _ ?_ (by omega))
      (skipSpace_of_head rfl) ?_
    · exact ends_cons (by decide)
    · rw [skipSpace_lineBreak, skipSpace_prettyAt (hplain second List.mem_cons_self)]
      exact ih fuel (fun j hj => hplain j (List.mem_cons_of_mem _ hj))
        (fun j hj => hread j (List.mem_cons_of_mem _ hj)) (by omega)

theorem set_of_new {before : Fields} {key : String} (h : key ∉ before.map (·.1)) (j : Json) :
    before.set key j = before ++ [(key, j)] := by
  induction before with
  | nil => rfl
  | cons field before ih =>
    rw [List.map_cons, List.mem_cons, not_or] at h
    rw [Fields.set, if_neg (Ne.symm h.1), ih h.2, List.cons_append]

theorem skipSpace_prettyField (field : String × Json) (depth : Nat) (rest : List Char) :
    skipSpace (prettyField depth field ++ rest) = prettyField depth field ++ rest := by
  cases field
  rfl

theorem not_mem_of_nodup {before more : Fields} {field : String × Json}
    (h : ((before ++ field :: more).map (·.1)).Nodup) : field.1 ∉ before.map (·.1) := by
  rw [List.map_append, List.nodup_append] at h
  intro hmem
  exact h.2.2 field.1 hmem field.1 List.mem_cons_self rfl

theorem value_behind_colon {j : Json} (hplain : Plain limit j) (hread : Readable limit j)
    {depth : Nat} (hends : Ends rest) (hfuel : 2 * (prettyAt depth j).length ≤ fuel) :
    value limit fuel (skipSpace (' ' :: (prettyAt depth j ++ rest))) = .ok (j, rest) := by
  have hblank : skipSpace (' ' :: (prettyAt depth j ++ rest)) = skipSpace (prettyAt depth j ++ rest) :=
    rfl
  rw [hblank, skipSpace_prettyAt hplain]
  exact hread depth fuel rest hends hfuel

variable (fuel rest) in
/-- Fields with new keys are read behind those that were read before. -/
theorem fields_prettyFields (before : Fields) {first : String × Json} {more : Fields}
    (depth outer : Nat) (hdistinct : ((before ++ first :: more).map (·.1)).Nodup)
    (hplain : ∀ field ∈ first :: more, Plain limit field.2)
    (hread : ∀ field ∈ first :: more, Readable limit field.2)
    (hfuel : 2 * ((prettyField depth first).length +
      (following depth (prettyFields depth more)).length) < fuel) :
    fields limit fuel before (prettyField depth first ++
      (following depth (prettyFields depth more) ++ (lineBreak outer ++ '\x7d' :: rest))) =
        .ok (before ++ first :: more, rest) := by
  induction more generalizing before first fuel with
  | nil =>
    obtain ⟨key, j⟩ := first
    obtain ⟨fuel, rfl⟩ := Nat.exists_eq_succ_of_ne_zero (Nat.ne_zero_of_lt hfuel)
    have hnew : key ∉ before.map (·.1) := not_mem_of_nodup hdistinct
    have hj : Plain limit j := hplain (key, j) List.mem_cons_self
    have hr : Readable limit j := hread (key, j) List.mem_cons_self
    rw [prettyField] at hfuel ⊢
    simp only [List.length_cons, List.length_append] at hfuel
    rw [List.append_assoc, List.cons_append, List.cons_append, ← set_of_new hnew]
    refine fields_last (value_behind_colon hj hr ?_ (by omega)) ?_
    · exact ends_following [] depth outer _
    · exact (skipSpace_lineBreak outer _).trans (skipSpace_of_head rfl)
  | cons second more ih =>
    obtain ⟨key, j⟩ := first
    obtain ⟨fuel, rfl⟩ := Nat.exists_eq_succ_of_ne_zero (Nat.ne_zero_of_lt hfuel)
    have hnew : key ∉ before.map (·.1) := not_mem_of_nodup hdistinct
    have hj : Plain limit j := hplain (key, j) List.mem_cons_self
    have hr : Readable limit j := hread (key, j) List.mem_cons_self
    rw [prettyField, prettyFields, following_cons] at hfuel
    simp only [List.length_cons, List.length_append] at hfuel
    rw [prettyField, prettyFields, following_cons]
    simp only [List.append_assoc, List.cons_append]
    refine fields_more (value_behind_colon hj hr ?_ (by omega)) (skipSpace_of_head rfl) ?_
    · exact ends_cons (by decide)
    · rw [List.append_cons before] at hdistinct ⊢
      rw [skipSpace_lineBreak, skipSpace_prettyField, set_of_new hnew]
      refine ih fuel _ hdistinct ?_ ?_ (by omega)
      · exact fun field hfield => hplain field (List.mem_cons_of_mem _ hfield)
      · exact fun field hfield => hread field (List.mem_cons_of_mem _ hfield)

/-! ## Texts -/

theorem block_append (depth : Nat) (opening closing : Char) (first : List Char)
    (more : List (List Char)) (rest : List Char) :
    block depth opening closing (first :: more) ++ rest =
      opening :: (lineBreak (depth + 1) ++ (first ++
        (following (depth + 1) more ++ (lineBreak depth ++ closing :: rest)))) := by
  simp [block, following]

theorem length_block (depth : Nat) (opening closing : Char) (first : List Char)
    (more : List (List Char)) : first.length + (following (depth + 1) more).length + 2 ≤
      (block depth opening closing (first :: more)).length := by
  rw [← List.append_nil (block depth opening closing (first :: more)), block_append]
  simp only [List.length_cons, List.length_append]
  omega

variable (limit) in
/-- A text is not empty, so there is a call to be made. -/
theorem exists_fuel {j : Json} (h : Plain limit j) {depth : Nat}
    (hfuel : 2 * (prettyAt depth j).length ≤ fuel) : ∃ more, fuel = more + 1 := by
  obtain ⟨c, text, hcons, -⟩ := exists_head_prettyAt h depth
  rw [hcons, List.length_cons] at hfuel
  exact ⟨fuel - 1, by omega⟩

/-- **A value is read from its text**, up to the end of the text and no further. -/
theorem value_prettyAt {j : Json} (h : Plain limit j) : Readable limit j := by
  induction h with
  | null =>
    intro depth fuel rest hends hfuel
    obtain ⟨fuel, rfl⟩ := exists_fuel limit .null hfuel
    exact (value_of_scalar (by decide) (by decide) (by decide)).trans scalar_null
  | bool b =>
    intro depth fuel rest hends hfuel
    obtain ⟨fuel, rfl⟩ := exists_fuel limit (.bool b) hfuel
    rw [prettyAt, ← scalar_boolText b]
    cases b with
    | true => exact value_of_scalar (by decide) (by decide) (by decide)
    | false => exact value_of_scalar (by decide) (by decide) (by decide)
  | int fits =>
    intro depth fuel rest hends hfuel
    obtain ⟨fuel, rfl⟩ := exists_fuel limit (.int fits) hfuel
    exact value_intText fits hends
  | str s =>
    intro depth fuel rest hends hfuel
    obtain ⟨fuel, rfl⟩ := exists_fuel limit (.str s) hfuel
    exact value_quote s
  | @arr listed plain ih =>
    intro depth fuel rest hends hfuel
    obtain ⟨fuel, rfl⟩ := exists_fuel limit (.arr plain) hfuel
    rw [prettyAt] at hfuel ⊢
    cases listed with
    | nil => rfl
    | cons first more =>
      rw [prettyItems] at hfuel ⊢
      have hlen := length_block depth '[' ']' (prettyAt (depth + 1) first)
        (prettyItems (depth + 1) more)
      have hitems := items_prettyItems fuel rest (depth + 1) depth
        (fun j hj => plain j (List.mem_cons_of_mem _ hj)) ih (by omega)
      obtain ⟨c, text, hcons, hspace, hc, -⟩ :=
        exists_head_prettyAt (plain first List.mem_cons_self) (depth + 1)
      rw [hcons, List.cons_append] at hitems
      rw [block_append, hcons, List.cons_append]
      exact value_of_items ((skipSpace_lineBreak _ _).trans (skipSpace_of_head hspace)) hc hitems
  | @obj listed distinct plain ih =>
    intro depth fuel rest hends hfuel
    obtain ⟨fuel, rfl⟩ := exists_fuel limit (.obj distinct plain) hfuel
    rw [prettyAt] at hfuel ⊢
    cases listed with
    | nil => rfl
    | cons first more =>
      rw [prettyFields] at hfuel ⊢
      have hlen := length_block depth '\x7b' '\x7d' (prettyField (depth + 1) first)
        (prettyFields (depth + 1) more)
      have hfields := fields_prettyFields fuel rest [] (depth + 1) depth distinct plain ih
        (by omega)
      obtain ⟨key, j⟩ := first
      rw [block_append]
      exact value_of_fields ((skipSpace_lineBreak _ _).trans (skipSpace_of_head rfl)) (by decide)
        hfields

/-- **A value is read from its laid out text**, with any limit that its integers keep. -/
theorem parse_pretty {j : Json} (h : Plain limit j) : parse j.pretty limit = .ok j := by
  obtain ⟨c, text, hcons, hspace, -, hmark⟩ := exists_head_prettyAt h 0
  have hvalue := value_prettyAt h 0 (2 * (prettyAt 0 j).length + 2) [] (by intro c hc; cases hc)
    (by omega)
  have hdocument : document limit (prettyAt 0 j) = .ok j := by
    unfold document
    rw [List.append_nil] at hvalue
    rw [if_neg (by simpa [hcons] using hmark)]
    have hstart : skipSpace (prettyAt 0 j) = prettyAt 0 j := by
      rw [hcons, skipSpace_of_head hspace]
    rw [hstart, hvalue]
    rfl
  unfold parse pretty
  rw [String.toList_ofList, hdocument]

end Values

end Testsmith.Json
