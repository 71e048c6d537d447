import Testsmith.Proofs.WrittenJson
import Testsmith.Toml.Document

/-!
# Reading written TOML

A key and a value are written in one line, and a document of that line alone gives the value under the
key. The escapes of strings are those of a format that writes a character beyond the basic plane as two
surrogates. A document has no surrogates, so a line in which such a character is written cannot be read
at all, and these are the only lines that cannot. `line_read_back` is the main statement.

A number has no end of its own: inside a list it is followed by a comma or a bracket, and on a line by
nothing (`EndsItem`).

Lists are written and read at any depth. A writer or a reader with a bounded stack is taken to have room
for the nesting of the value.
-/

namespace Testsmith.Toml

open Text (hex hexDigit)

/-! ## Strings -/

/-- The character lies in the basic plane, where one code unit writes it. -/
def isBasic (c : Char) : Bool := c.toNat < 0x10000

section Strings

variable {c : Char} {text chars rest : List Char} {width n : Nat}

/-- Four hexadecimal digits are read as the character whose code they write, if there is one. -/
theorem codePoint_hex (h : n < 0x10000) (rest : List Char) : codePoint 4 (hex 4 n ++ rest) =
    if n.isValidChar then .ok ([Char.ofNat n], 5) else malformed := by
  have hdigit (m : Nat) : Json.hexValue? (hexDigit (m % 16)) = some (m % 16) :=
    Json.hexValue?_hexDigit (Nat.mod_lt m (by decide))
  have hvalue : 16 * (16 * (16 * (n / 16 / 16 / 16 % 16) + n / 16 / 16 % 16) + n / 16 % 16) +
      n % 16 = n := by omega
  simp [codePoint, hex, hdigit, hvalue]

theorem basicBody_of_escape (h : escapeValue false rest = .ok (chars, width)) :
    basicBody false 0 ('\\' :: rest) = prepend chars (basicBody false width rest) := by
  rw [basicBody, if_neg (by decide), if_pos rfl, h]

theorem basicBody_of_bad_escape (h : escapeValue false rest = malformed) :
    basicBody false 0 ('\\' :: rest) = malformed := by
  rw [basicBody, if_neg (by decide), if_pos rfl, h]
  rfl

theorem basicBody_pair {e : Char} (rest : List Char)
    (h : escapeValue false (e :: rest) = .ok (chars, 1)) :
    basicBody false 0 (['\\', e] ++ rest) = prepend chars (basicBody false 0 rest) :=
  basicBody_of_escape h

theorem escapeValue_unit (h : n < 0x10000) (rest : List Char) :
    escapeValue false ('u' :: (hex 4 n ++ rest)) =
      if n.isValidChar then .ok ([Char.ofNat n], 5) else malformed := by
  rw [← codePoint_hex h]
  rfl

/-- A code unit that is a character is read as that character. -/
theorem basicBody_codeUnit (h : n.isValidChar) (hn : n < 0x10000) (rest : List Char) :
    basicBody false 0 (codeUnit n ++ rest) = prepend [Char.ofNat n] (basicBody false 0 rest) := by
  have hvalue : escapeValue false ('u' :: (hex 4 n ++ rest)) = .ok ([Char.ofNat n], 5) := by
    rw [escapeValue_unit hn, if_pos h]
  rw [codeUnit, List.cons_append, List.cons_append, basicBody_of_escape hvalue]
  simp [hex, basicBody]

/-- A surrogate is no character, and ends the reading. -/
theorem basicBody_surrogate (h : ¬ n.isValidChar) (hn : n < 0x10000) (rest : List Char) :
    basicBody false 0 (codeUnit n ++ rest) = malformed := by
  have hvalue : escapeValue false ('u' :: (hex 4 n ++ rest)) = malformed := by
    rw [escapeValue_unit hn, if_neg h]
  rw [codeUnit, List.cons_append, List.cons_append, basicBody_of_bad_escape hvalue]

theorem basicBody_plain (hquote : c ≠ '"') (hbackslash : c ≠ '\\') (hlegal : isIllegal c = false)
    (rest : List Char) : basicBody false 0 (c :: rest) = prepend [c] (basicBody false 0 rest) := by
  rw [basicBody, if_neg hquote, if_neg hbackslash, hlegal]
  rfl

/-- What is written for a character is read as that character where it lies in the basic plane, and
otherwise cannot be read. -/
theorem basicBody_escape (c : Char) (rest : List Char) : basicBody false 0 (escape c ++ rest) =
    if isBasic c then prepend [c] (basicBody false 0 rest) else malformed := by
  unfold escape
  dsimp only
  split
  · next h => subst h; exact basicBody_pair _ rfl
  split
  · next h => subst h; exact basicBody_pair _ rfl
  split
  · next h => subst h; exact basicBody_pair _ rfl
  split
  · next h => subst h; exact basicBody_pair _ rfl
  split
  · next h => subst h; exact basicBody_pair _ rfl
  split
  · next h =>
    have hc : c = '\x08' := Char.toNat_inj.1 h
    subst hc
    exact basicBody_pair _ rfl
  split
  · next h =>
    have hc : c = '\x0c' := Char.toNat_inj.1 h
    subst hc
    exact basicBody_pair _ rfl
  split
  · next hquote hbackslash _ _ _ _ _ hprints =>
    rw [Bool.and_eq_true, decide_eq_true_eq, decide_eq_true_eq] at hprints
    have hlegal : isIllegal c = false := by
      simp only [isIllegal, Bool.or_eq_false_iff, Bool.and_eq_false_iff, decide_eq_false_iff_not]
      omega
    have hbasic : isBasic c = true := decide_eq_true (by omega)
    rw [if_pos hbasic]
    exact basicBody_plain hquote hbackslash hlegal rest
  split
  · next h =>
    have hbasic : isBasic c = true := decide_eq_true h
    have hvalid : c.toNat.isValidChar := c.valid
    rw [if_pos hbasic, basicBody_codeUnit hvalid h, Char.ofNat_toNat]
  · next h =>
    have hmost : c.toNat < 0x110000 := by
      have hvalid := c.valid
      simp only [UInt32.isValidChar, Nat.isValidChar] at hvalid
      show c.val.toNat < _
      omega
    have hhigh : ¬ (0xD800 + (c.toNat - 0x10000) / 0x400).isValidChar := by
      simp only [Nat.isValidChar]
      omega
    rw [if_neg (by simpa [isBasic] using h), List.append_assoc,
      basicBody_surrogate hhigh (by omega)]

/-- The string is written without surrogates. -/
def inBasicPlane (s : String) : Bool := s.toList.all isBasic

theorem basicBody_escaped (chars rest : List Char) :
    basicBody false 0 (chars.flatMap escape ++ '"' :: rest) =
      if chars.all isBasic then .ok (chars, rest) else malformed := by
  induction chars with
  | nil => rfl
  | cons c chars ih =>
    rw [List.flatMap_cons, List.append_assoc, basicBody_escape, ih, List.all_cons]
    cases isBasic c with
    | false => rfl
    | true => cases chars.all isBasic <;> rfl

theorem lineString_quoteChars (s : String) (rest : List Char) :
    lineString (quoteChars s ++ rest) =
      if inBasicPlane s then .ok (s.toList, rest) else malformed := by
  rw [quoteChars, List.cons_append, List.append_assoc, List.singleton_append]
  exact basicBody_escaped s.toList rest

/-- What is written for a character does not start with a quote. -/
theorem exists_escape (c : Char) : ∃ d more, escape c = d :: more ∧ d ≠ '"' := by
  unfold escape codeUnit
  dsimp only
  split
  · exact ⟨_, _, rfl, by decide⟩
  · next hquote =>
    repeat' split
    all_goals first | exact ⟨_, _, rfl, by decide⟩ | exact ⟨_, _, rfl, hquote⟩

/-- A written string does not open a text of several lines: two quotes without anything between them are
followed by no third one. -/
theorem after?_three_quotes (s : String) (hrest : rest.head? ≠ some '"') :
    Text.after? "\"\"\"" (quoteChars s ++ rest) = none := by
  refine Option.eq_none_iff_forall_ne_some.2 fun more hmore => ?_
  have htext := Text.eq_append_of_after? hmore
  rw [quoteChars, List.cons_append, List.append_assoc] at htext
  have hbody := (List.cons.inj htext).2
  cases hs : s.toList with
  | nil =>
    rw [hs] at hbody
    have hafter : rest = '"' :: more := (List.cons.inj hbody).2
    rw [hafter] at hrest
    exact hrest rfl
  | cons c chars =>
    obtain ⟨d, escaped, hd, hne⟩ := exists_escape c
    rw [hs, List.flatMap_cons, hd] at hbody
    exact hne (List.cons.inj hbody).1

theorem string_quoteChars (s : String) (hrest : rest.head? ≠ some '"') :
    string (quoteChars s ++ rest) = if inBasicPlane s then .ok (s, rest) else malformed := by
  have hsingle : Text.after? "'''" (quoteChars s ++ rest) = none := rfl
  unfold string
  rw [after?_three_quotes s hrest, hsingle]
  dsimp only
  rw [lineString_quoteChars]
  cases inBasicPlane s with
  | false => rfl
  | true => simp [Except.map]

end Strings

/-! ## Integers -/

/-- An item of a list or the value of a line ends in front of this text. -/
def EndsItem (rest : List Char) : Prop := ∀ c, rest.head? = some c → c = ',' ∨ c = ']'

theorem endsItem_nil : EndsItem [] := by
  intro c hc
  cases hc

theorem endsItem_comma (rest : List Char) : EndsItem (',' :: rest) := by
  rintro c ⟨⟩
  exact .inl rfl

theorem endsItem_bracket (rest : List Char) : EndsItem (']' :: rest) := by
  rintro c ⟨⟩
  exact .inr rfl

section Integers

variable {digits rest text more : List Char} {c : Char} {n width least greatest : Nat}

theorem EndsItem.head?_ne (h : EndsItem rest) (hcomma : c ≠ ',') (hbracket : c ≠ ']') :
    rest.head? ≠ some c := by
  intro hc
  rcases h c hc with rfl | rfl
  · exact hcomma rfl
  · exact hbracket rfl

theorem EndsItem.isDigit (h : EndsItem rest) : ∀ c, rest.head? = some c → c.isDigit = false := by
  intro c hc
  rcases h c hc with rfl | rfl <;> rfl

/-- A row of digits is read to its end. -/
theorem moreDigits_append (hdigits : ∀ c ∈ digits, c.isDigit = true) (hends : EndsItem rest) :
    moreDigits Char.isDigit (digits ++ rest) = (digits, rest) := by
  induction digits with
  | nil =>
    cases rest with
    | nil => rfl
    | cons c rest => rcases hends c rfl with rfl | rfl <;> simp [moreDigits, Char.isDigit]
  | cons c digits ih =>
    have hc : c.isDigit = true := hdigits c List.mem_cons_self
    have hne : c ≠ '_' := by rintro rfl; cases hc
    rw [List.cons_append, moreDigits, if_pos hc, ih fun d hd => hdigits d (List.mem_cons_of_mem c hd)]
    exact fun _ _ h => absurd h hne

/-- The digits of a number are read to their end. -/
theorem wholeDigits?_toDigits (hends : EndsItem rest) (n : Nat) :
    wholeDigits? (Nat.toDigits 10 n ++ rest) = some (Nat.toDigits 10 n, rest) := by
  by_cases hn : n = 0
  · subst hn
    rw [Nat.toDigits_zero]
    rfl
  · obtain ⟨c, digits, hcons, hc⟩ := Json.exists_head_toDigits n
    have hdigits : ∀ d ∈ digits, d.isDigit = true := fun d hd =>
      Json.isDigit_toDigits n d (hcons ▸ List.mem_cons_of_mem c hd)
    have hhead : c ≠ '0' := by
      rintro rfl
      exact Json.head?_toDigits hn (by rw [hcons]; rfl)
    rw [hcons, List.cons_append, wholeDigits?]
    · rw [digits?, if_pos hc, moreDigits_append hdigits hends]
    · exact fun _ h => hhead (List.cons.inj h).1

theorem fractionDigits_of_ends (hends : EndsItem rest) : fractionDigits rest = ([], rest) := by
  unfold fractionDigits
  split
  · exact absurd rfl (hends.head?_ne (by decide) (by decide))
  · rfl

theorem exponent?_of_ends (hends : EndsItem rest) : exponent? rest = none := by
  cases rest with
  | nil => rfl
  | cons c rest => rcases hends c rfl with rfl | rfl <;> rfl

/-- What an integer is read as: none beyond the limit on digits. -/
def readInteger (i : Int) (rest : List Char) : Read Json :=
  let count := (Nat.toDigits 10 i.natAbs).length
  if Numeral.maxDigits < count then .error (.tooManyDigits count) else .ok (.int i, rest)

theorem decimal?_of_sign {i : Int} {negative : Bool} (hends : EndsItem rest)
    (hsign : Numeral.sign text = (negative, Nat.toDigits 10 n ++ rest))
    (hi : (if negative then -(n : Int) else n) = i) : decimal? text = some (readInteger i rest) := by
  have habs : i.natAbs = n := by
    subst hi
    cases negative <;> simp
  have hwhole : wholeDigits? (Nat.toDigits 10 n ++ rest) = some (Nat.toDigits 10 n, rest) :=
    wholeDigits?_toDigits hends n
  simp only [decimal?, hsign, hwhole, fractionDigits_of_ends hends, exponent?_of_ends hends,
    Json.digitsValue_toDigits, hi, readInteger, habs, Option.bind_eq_bind, Option.bind_some,
    Option.pure_def]
  split <;> rfl

theorem sign_of_digit (hc : c.isDigit = true) (text : List Char) :
    Numeral.sign (c :: text) = (false, c :: text) := by
  unfold Numeral.sign
  split
  · next h => cases h; cases hc
  · next h => cases h; cases hc
  · rfl

/-- The digits of a written integer are read as that integer. -/
theorem decimal?_intText (hends : EndsItem rest) (i : Int) :
    decimal? (Json.intText i ++ rest) = some (readInteger i rest) := by
  cases i with
  | ofNat n =>
    have hsign : Numeral.sign (Nat.toDigits 10 n ++ rest) = (false, Nat.toDigits 10 n ++ rest) := by
      obtain ⟨c, digits, hcons, hc⟩ := Json.exists_head_toDigits n
      rw [hcons]
      exact sign_of_digit hc _
    rw [Int.ofNat_eq_natCast, Json.intText_ofNat]
    exact decimal?_of_sign hends hsign rfl
  | negSucc n =>
    rw [Json.intText_negSucc]
    exact decimal?_of_sign hends rfl rfl

/-! ### Other numbers, dates and times -/

/-- A fixed number takes digits only, so it leaves some of them and what follows them. -/
theorem exists_of_fixedNumber? (hdigits : ∀ d ∈ digits, d.isDigit = true) (hends : EndsItem rest)
    (h : fixedNumber? width least greatest (digits ++ rest) = some (n, more)) :
    ∃ behind, (∀ d ∈ behind, d.isDigit = true) ∧ more = behind ++ rest := by
  unfold fixedNumber? at h
  dsimp only at h
  split at h
  · next hfixed =>
    cases h
    obtain ⟨hlength, hall, -⟩ := hfixed
    by_cases hlong : width ≤ digits.length
    · refine ⟨digits.drop width, fun d hd => hdigits d (List.mem_of_mem_drop hd), ?_⟩
      exact List.drop_append_of_le_length hlong
    · -- the number would take a character of what follows the digits, which is no digit
      cases rest with
      | nil =>
        rw [List.append_nil, List.length_take] at hlength
        omega
      | cons c rest =>
        obtain ⟨excess, hexcess⟩ : ∃ excess, width - digits.length = excess + 1 :=
          ⟨width - digits.length - 1, by omega⟩
        have htaken : c ∈ (digits ++ c :: rest).take width := by
          rw [List.take_append, hexcess, List.take_succ_cons]
          simp
        have hdigit := List.all_eq_true.1 hall c htaken
        rw [hends.isDigit c rfl] at hdigit
        cases hdigit
  · cases h

theorem fixedNumber?_hyphen (h : 0 < width) (text : List Char) :
    fixedNumber? width least greatest ('-' :: text) = none := by
  obtain ⟨width, rfl⟩ := Nat.exists_eq_succ_of_ne_zero (Nat.ne_of_gt h)
  unfold fixedNumber?
  dsimp only
  rw [if_neg]
  rintro ⟨-, hall, -⟩
  rw [List.take_succ_cons, List.all_cons] at hall
  cases hall

theorem afterChar?_eq_none (mark : Char) (hmark : mark.isDigit = false) (hcomma : mark ≠ ',')
    (hbracket : mark ≠ ']') (hdigits : ∀ d ∈ digits, d.isDigit = true) (hends : EndsItem rest) :
    afterChar? mark (digits ++ rest) = none := by
  cases digits with
  | cons d digits =>
    have hd : d ≠ mark := by
      rintro rfl
      rw [hdigits d List.mem_cons_self] at hmark
      cases hmark
    rw [List.cons_append, afterChar?, if_neg hd]
  | nil =>
    cases rest with
    | nil => rfl
    | cons c rest =>
      have hc : c ≠ mark := by
        rintro rfl
        exact hends.head?_ne hcomma hbracket rfl
      rw [List.nil_append, afterChar?, if_neg hc]

/-- So no mark follows the number, unless an item could end with the mark. -/
theorem afterChar?_of_fixedNumber? {mark : Char} (hmark : mark.isDigit = false) (hcomma : mark ≠ ',')
    (hbracket : mark ≠ ']') (hdigits : ∀ d ∈ digits, d.isDigit = true) (hends : EndsItem rest)
    (h : fixedNumber? width least greatest (digits ++ rest) = some (n, more)) :
    afterChar? mark more = none := by
  obtain ⟨behind, hbehind, rfl⟩ := exists_of_fixedNumber? hdigits hends h
  exact afterChar?_eq_none mark hmark hcomma hbracket hbehind hends

theorem date?_digits (hdigits : ∀ d ∈ digits, d.isDigit = true) (hends : EndsItem rest) :
    date? (digits ++ rest) = none := by
  unfold date?
  cases hyear : fixedNumber? 4 0 9999 (digits ++ rest) with
  | none => rfl
  | some found =>
    obtain ⟨year, more⟩ := found
    have hmark : afterChar? '-' more = none :=
      afterChar?_of_fixedNumber? rfl (by decide) (by decide) hdigits hends hyear
    simp only [Option.bind_eq_bind, Option.bind_some, hmark, Option.bind_none]

theorem afterTime?_digits (hdigits : ∀ d ∈ digits, d.isDigit = true) (hends : EndsItem rest) :
    afterTime? (digits ++ rest) = none := by
  unfold afterTime?
  cases hhour : fixedNumber? 2 0 23 (digits ++ rest) with
  | none => rfl
  | some found =>
    obtain ⟨hour, more⟩ := found
    have hmark : afterChar? ':' more = none :=
      afterChar?_of_fixedNumber? rfl (by decide) (by decide) hdigits hends hhour
    simp only [Option.bind_eq_bind, Option.bind_some, hmark, Option.bind_none]

theorem date?_intText (hends : EndsItem rest) (i : Int) : date? (Json.intText i ++ rest) = none := by
  cases i with
  | ofNat n =>
    rw [Int.ofNat_eq_natCast, Json.intText_ofNat]
    exact date?_digits (Json.isDigit_toDigits n) hends
  | negSucc n =>
    rw [Json.intText_negSucc, List.cons_append, date?, fixedNumber?_hyphen (by decide)]
    rfl

theorem afterTime?_intText (hends : EndsItem rest) (i : Int) :
    afterTime? (Json.intText i ++ rest) = none := by
  cases i with
  | ofNat n =>
    rw [Int.ofNat_eq_natCast, Json.intText_ofNat]
    exact afterTime?_digits (Json.isDigit_toDigits n) hends
  | negSucc n =>
    rw [Json.intText_negSucc, List.cons_append, afterTime?, fixedNumber?_hyphen (by decide)]
    rfl

theorem isAlpha_of_isDigit (h : c.isDigit = true) : c.isAlpha = false := by
  delta Char.isDigit at h
  delta Char.isAlpha Char.isUpper Char.isLower
  simp only [Bool.and_eq_true, decide_eq_true_eq, ge_iff_le, UInt32.le_iff_toNat_le] at h
  simp only [Bool.or_eq_false_iff, Bool.and_eq_false_iff, decide_eq_false_iff_not, ge_iff_le,
    UInt32.le_iff_toNat_le]
  have hA : 'A'.val.toNat = 65 := rfl
  have ha : 'a'.val.toNat = 97 := rfl
  have h9 : '9'.val.toNat = 57 := rfl
  omega

/-- Digits and what follows them start with no letter. -/
theorem isAlpha_head (hdigits : ∀ d ∈ digits, d.isDigit = true) (hends : EndsItem rest) :
    ∀ c, (digits ++ rest).head? = some c → c.isAlpha = false := by
  intro c hc
  cases digits with
  | nil => rcases hends c hc with rfl | rfl <;> rfl
  | cons d digits =>
    cases hc
    exact isAlpha_of_isDigit (hdigits c List.mem_cons_self)

/-- The second character of an integer is a digit, or stands behind it and is no letter. -/
theorem isAlpha_intText (hends : EndsItem rest) (i : Int) :
    ∀ c, (Json.intText i ++ rest)[1]? = some c → c.isAlpha = false := by
  cases i with
  | ofNat n =>
    obtain ⟨d, digits, hcons, -⟩ := Json.exists_head_toDigits n
    have hdigits : ∀ e ∈ digits, e.isDigit = true := fun e he =>
      Json.isDigit_toDigits n e (hcons ▸ List.mem_cons_of_mem d he)
    rw [Int.ofNat_eq_natCast, Json.intText_ofNat, hcons, List.cons_append, List.getElem?_cons_succ,
      ← List.head?_eq_getElem?]
    exact isAlpha_head hdigits hends
  | negSucc n =>
    rw [Json.intText_negSucc, List.cons_append, List.getElem?_cons_succ, ← List.head?_eq_getElem?]
    exact isAlpha_head (Json.isDigit_toDigits (n + 1)) hends

/-- A word whose second character is a letter does not stand in front of an integer. -/
theorem after?_intText {word : String} (hword : ∃ c, word.toList[1]? = some c ∧ c.isAlpha = true)
    (hends : EndsItem rest) (i : Int) : Text.after? word (Json.intText i ++ rest) = none := by
  refine Text.after?_eq_none ?_
  rintro ⟨more, hmore⟩
  obtain ⟨c, hc, halpha⟩ := hword
  have hsecond : (Json.intText i ++ rest)[1]? = some c := by
    rw [← hmore, List.getElem?_append_left (List.getElem?_eq_some_iff.1 hc).1, hc]
  rw [isAlpha_intText hends i c hsecond] at halpha
  cases halpha

/-- An integer is read from its text. -/
theorem plainScalar_intText (hends : EndsItem rest) (i : Int) :
    plainScalar (Json.intText i ++ rest) = readInteger i rest := by
  have hword (word : String) (h : ∃ c, word.toList[1]? = some c ∧ c.isAlpha = true) :
      Text.after? word (Json.intText i ++ rest) = none := after?_intText h hends i
  have hbased : basedInteger? (Json.intText i ++ rest) = none := by
    unfold basedInteger?
    dsimp only
    rw [hword "0x" ⟨'x', rfl, rfl⟩, hword "0b" ⟨'b', rfl, rfl⟩, hword "0o" ⟨'o', rfl, rfl⟩]
    rfl
  unfold plainScalar
  rw [hword "true" ⟨'r', rfl, rfl⟩, hword "false" ⟨'a', rfl, rfl⟩, date?_intText hends,
    afterTime?_intText hends, hbased, decimal?_intText hends]

end Integers

/-! ## Values -/

mutual

/-- The strings of a value that can be written. -/
def strings : Json → List String
  | .str s => [s]
  | .arr items => itemStrings items
  | _ => []

def itemStrings : List Json → List String
  | [] => []
  | item :: rest => strings item ++ itemStrings rest

end

/-- A value that a settings file can hold: a truth value, an integer with no more digits than are
converted, a string, or a list of such values. -/
inductive Writable : Json → Prop
  | bool (b : Bool) : Writable (.bool b)
  | int {i : Int} (fits : (Nat.toDigits 10 i.natAbs).length ≤ Numeral.maxDigits) : Writable (.int i)
  | str (s : String) : Writable (.str s)
  | arr {items : List Json} (writable : ∀ v ∈ items, Writable v) : Writable (.arr items)

/-- A text starts with something other than a blank, a line end, a comment and a closing bracket. -/
def OpensItem (text : List Char) : Prop :=
  ∃ c more, text = c :: more ∧ isBlank c = false ∧ c ≠ '\n' ∧ c ≠ '#' ∧ c ≠ ']'

/-- A value is read from its text, whatever the text is followed by, as long as an item can end there. It
is read where its strings lie in the basic plane, and otherwise not at all. -/
def Readable (v : Json) : Prop :=
  ∀ text fuel rest, valueChars v = .ok text → EndsItem rest → 2 * text.length ≤ fuel →
    value fuel (text ++ rest) =
      if (strings v).all inBasicPlane then .ok (v, rest) else malformed

section Values

variable {fuel : Nat} {text rest : List Char} {v item : Json} {texts : List (List Char)}

theorem itemsChars_cons_eq_ok {more : List Json} (h : itemsChars (item :: more) = .ok texts) :
    ∃ text others, valueChars item = .ok text ∧ itemsChars more = .ok others ∧
      texts = text :: others := by
  unfold itemsChars at h
  split at h
  · cases h
  · next text htext =>
    cases hothers : itemsChars more with
    | error e => rw [hothers] at h; cases h
    | ok others =>
      rw [hothers] at h
      cases h
      exact ⟨text, others, htext, rfl, rfl⟩

theorem exists_itemsChars {items : List Json} (h : ∀ v ∈ items, ∃ text, valueChars v = .ok text) :
    ∃ texts, itemsChars items = .ok texts := by
  induction items with
  | nil => exact ⟨[], rfl⟩
  | cons item more ih =>
    obtain ⟨text, htext⟩ := h item List.mem_cons_self
    obtain ⟨others, hothers⟩ := ih fun v hv => h v (List.mem_cons_of_mem item hv)
    exact ⟨text :: others, by rw [itemsChars, htext, hothers]; rfl⟩

/-- Such a value has a text. -/
theorem exists_valueChars (h : Writable v) : ∃ text, valueChars v = .ok text := by
  induction h with
  | bool b => exact ⟨_, rfl⟩
  | int fits => exact ⟨_, rfl⟩
  | str s => exact ⟨_, rfl⟩
  | arr writable ih =>
    obtain ⟨texts, htexts⟩ := exists_itemsChars ih
    exact ⟨_, by rw [valueChars, htexts]; rfl⟩

theorem opensItem_cons {c : Char} (hc : isBlank c = false ∧ c ≠ '\n' ∧ c ≠ '#' ∧ c ≠ ']')
    (more : List Char) : OpensItem (c :: more) :=
  ⟨c, more, rfl, hc⟩

theorem opensItem_valueChars (h : valueChars v = .ok text) : OpensItem text := by
  cases v with
  | null => cases h
  | float x => cases h
  | obj fields => cases h
  | bool b =>
    cases h
    cases b with
    | true => exact opensItem_cons (by decide) _
    | false => exact opensItem_cons (by decide) _
  | int i =>
    cases h
    obtain ⟨c, digits, hcons, hne⟩ := Json.exists_head_intText i
    have hblank : isBlank c = false := by
      simp [isBlank, hne ' ' (by decide) rfl, hne '\t' (by decide) rfl]
    exact ⟨c, digits, hcons, hblank, hne _ (by decide) rfl, hne _ (by decide) rfl,
      hne _ (by decide) rfl⟩
  | str s =>
    cases h
    exact opensItem_cons (by decide) _
  | arr items =>
    unfold valueChars at h
    cases htexts : itemsChars items with
    | error e => rw [htexts] at h; cases h
    | ok texts =>
      rw [htexts] at h
      cases h
      exact opensItem_cons (by decide) _

theorem OpensItem.append (h : OpensItem text) (rest : List Char) : OpensItem (text ++ rest) := by
  obtain ⟨c, more, rfl, hc⟩ := h
  exact ⟨c, more ++ rest, rfl, hc⟩

theorem OpensItem.skipSpace_eq (h : OpensItem text) : skipSpace false text = .ok text := by
  obtain ⟨c, more, rfl, hblank, hline, hcomment, -⟩ := h
  simp [skipSpace, hblank, hline, hcomment]

theorem items_last (h : value fuel text = .ok (item, ']' :: rest)) :
    items (fuel + 1) text = .ok ([item], rest) := by
  have hspace : skipSpace false (']' :: rest) = .ok (']' :: rest) := rfl
  simp only [items, h, hspace]

theorem items_more (h : value fuel text = .ok (item, ',' :: ' ' :: rest)) (hopens : OpensItem rest) :
    items (fuel + 1) text =
      (items fuel rest).map fun (more, rest) => (item :: more, rest) := by
  have hcomma : skipSpace false (',' :: ' ' :: rest) = .ok (',' :: ' ' :: rest) := rfl
  have hblank : skipSpace false (' ' :: rest) = .ok rest := hopens.skipSpace_eq
  obtain ⟨c, more, rfl, -, -, -, hbracket⟩ := hopens
  simp only [items, h, hcomma, hblank]
  split
  · next heq => cases heq
  · next heq => cases heq; exact absurd rfl hbracket
  · next heq => cases heq; rfl

theorem items_of_malformed (h : value fuel text = malformed) :
    items (fuel + 1) text = malformed := by
  rw [items, h]
  rfl

theorem value_list (hopens : OpensItem text) : value (fuel + 1) ('[' :: text) =
    (items fuel text).map fun (items, rest) => (.arr items, rest) := by
  have hspace := hopens.skipSpace_eq
  obtain ⟨c, more, rfl, -, -, -, hbracket⟩ := hopens
  rw [value, hspace]
  split
  · next heq => cases heq
  · next heq => cases heq; exact absurd rfl hbracket
  · next heq => cases heq; rfl

/-- The texts of the items of a list with what stands between them. -/
def listed (texts : List (List Char)) : List Char := (List.intersperse [',', ' '] texts).flatten

theorem listed_singleton (text : List Char) : listed [text] = text := by
  simp [listed]

theorem listed_cons_cons (text second : List Char) (texts : List (List Char)) :
    listed (text :: second :: texts) = text ++ ',' :: ' ' :: listed (second :: texts) := by
  simp [listed]

theorem opensItem_listed {more : List Json} (h : itemsChars (item :: more) = .ok texts) :
    OpensItem (listed texts) := by
  obtain ⟨text, others, htext, -, rfl⟩ := itemsChars_cons_eq_ok h
  have hopens := opensItem_valueChars htext
  cases others with
  | nil => rwa [listed_singleton]
  | cons second others =>
    rw [listed_cons_cons]
    exact hopens.append _

/-- The items of a list are read one after the other, up to one that cannot be read. -/
theorem items_listed {more : List Json} (hread : ∀ v ∈ item :: more, Readable v)
    (htexts : itemsChars (item :: more) = .ok texts) (hfuel : 2 * (listed texts).length < fuel)
    (rest : List Char) : items fuel (listed texts ++ ']' :: rest) =
      if (itemStrings (item :: more)).all inBasicPlane then .ok (item :: more, rest)
      else malformed := by
  induction more generalizing item texts fuel with
  | nil =>
    obtain ⟨fuel, rfl⟩ := Nat.exists_eq_succ_of_ne_zero (Nat.ne_zero_of_lt hfuel)
    obtain ⟨text, others, htext, hothers, rfl⟩ := itemsChars_cons_eq_ok htexts
    cases hothers
    rw [listed_singleton] at hfuel ⊢
    have hitem := hread item List.mem_cons_self text fuel (']' :: rest) htext (endsItem_bracket rest)
      (by omega)
    have hstrings : itemStrings [item] = strings item := List.append_nil _
    rw [hstrings]
    cases hplane : (strings item).all inBasicPlane with
    | true =>
      rw [hplane] at hitem
      exact items_last hitem
    | false =>
      rw [hplane] at hitem
      exact items_of_malformed hitem
  | cons second more ih =>
    obtain ⟨fuel, rfl⟩ := Nat.exists_eq_succ_of_ne_zero (Nat.ne_zero_of_lt hfuel)
    obtain ⟨text, others, htext, hothers, rfl⟩ := itemsChars_cons_eq_ok htexts
    have hopens : OpensItem (listed others ++ ']' :: rest) := (opensItem_listed hothers).append _
    obtain ⟨secondText, others, -, -, rfl⟩ := itemsChars_cons_eq_ok hothers
    rw [listed_cons_cons] at hfuel ⊢
    simp only [List.length_append, List.length_cons] at hfuel
    rw [List.append_assoc, List.cons_append, List.cons_append]
    have hends : EndsItem (',' :: ' ' :: (listed (secondText :: others) ++ ']' :: rest)) :=
      endsItem_comma _
    have hitem := hread item List.mem_cons_self text fuel _ htext hends (by omega)
    have hothersFuel : 2 * (listed (secondText :: others)).length < fuel := by omega
    have hmore := ih (fun v hv => hread v (List.mem_cons_of_mem item hv)) hothers hothersFuel
    rw [itemStrings, List.all_append]
    cases hplane : (strings item).all inBasicPlane with
    | true =>
      rw [hplane] at hitem
      rw [items_more hitem hopens, hmore]
      cases (itemStrings (second :: more)).all inBasicPlane <;> rfl
    | false =>
      rw [hplane] at hitem
      exact items_of_malformed hitem

theorem value_of_scalar {c : Char} (hc : c ≠ '"' ∧ c ≠ '\'' ∧ c ≠ '[' ∧ c ≠ '\x7b') :
    value (fuel + 1) (c :: text) = plainScalar (c :: text) := by
  obtain ⟨hquote, hsingle, hbracket, hbrace⟩ := hc
  rw [value]
  · rw [if_neg (by simp [hquote, hsingle])]
  · exact hbracket
  · exact hbrace

theorem value_quoteChars (s : String) (hends : EndsItem rest) :
    value (fuel + 1) (quoteChars s ++ rest) =
      if inBasicPlane s then .ok (.str s, rest) else malformed := by
  have hstring := string_quoteChars s (hends.head?_ne (by decide) (by decide))
  rw [quoteChars, List.cons_append] at hstring ⊢
  rw [value, if_pos (by decide), hstring]
  · cases inBasicPlane s <;> rfl
  · decide
  · decide

theorem plainScalar_boolText (b : Bool) (rest : List Char) :
    plainScalar (Json.boolText b ++ rest) = .ok (.bool b, rest) := by
  cases b with
  | true =>
    rw [Json.boolText, if_pos rfl, plainScalar, Text.after?_append]
  | false =>
    have hother : Text.after? "true" ("false".toList ++ rest) = none := rfl
    rw [Json.boolText, if_neg (by decide), plainScalar, hother, Text.after?_append]

theorem value_intText (fuel : Nat) (i : Int) (hends : EndsItem rest) :
    value (fuel + 1) (Json.intText i ++ rest) = readInteger i rest := by
  refine Eq.trans ?_ (plainScalar_intText hends i)
  obtain ⟨c, digits, hcons, hne⟩ := Json.exists_head_intText i
  rw [hcons]
  exact value_of_scalar ⟨hne _ (by decide) rfl, hne _ (by decide) rfl, hne _ (by decide) rfl,
    hne _ (by decide) rfl⟩

/-- A text is not empty, so there is a call to be made. -/
theorem exists_call (h : valueChars v = .ok text) (hfuel : 2 * text.length ≤ fuel) :
    ∃ more, fuel = more + 1 := by
  obtain ⟨c, more, rfl, -⟩ := opensItem_valueChars h
  rw [List.length_cons] at hfuel
  exact ⟨fuel - 1, by omega⟩

/-- **A value is read from its text**, up to the end of the text and no further, where its strings lie in
the basic plane. -/
theorem value_valueChars (h : Writable v) : Readable v := by
  induction h with
  | bool b =>
    intro text fuel rest htext hends hfuel
    obtain ⟨fuel, rfl⟩ := exists_call htext hfuel
    cases htext
    refine Eq.trans ?_ (plainScalar_boolText b rest)
    cases b with
    | true => exact value_of_scalar (by decide)
    | false => exact value_of_scalar (by decide)
  | @int i fits =>
    intro text fuel rest htext hends hfuel
    obtain ⟨fuel, rfl⟩ := exists_call htext hfuel
    cases htext
    refine (value_intText fuel i hends).trans ?_
    rw [readInteger, if_neg (by omega)]
    rfl
  | str s =>
    intro text fuel rest htext hends hfuel
    obtain ⟨fuel, rfl⟩ := exists_call htext hfuel
    cases htext
    rw [value_quoteChars s hends, strings, List.all_cons, List.all_nil, Bool.and_true]
  | @arr listedItems writable ih =>
    intro text fuel rest htext hends hfuel
    obtain ⟨fuel, rfl⟩ := exists_call htext hfuel
    cases listedItems with
    | nil =>
      cases htext
      rfl
    | cons first more =>
      unfold valueChars at htext
      cases htexts : itemsChars (first :: more) with
      | error e => rw [htexts] at htext; cases htext
      | ok texts =>
        rw [htexts] at htext
        cases htext
        have hopens := (opensItem_listed htexts).append (']' :: rest)
        have hlisted : 2 * (listed texts).length < fuel := by
          simp only [List.length_cons, List.length_append, List.length_nil] at hfuel
          unfold listed
          omega
        rw [List.cons_append, List.append_assoc, List.singleton_append]
        refine (value_list hopens).trans ?_
        rw [items_listed ih htexts hlisted, strings]
        cases (itemStrings (first :: more)).all inBasicPlane <;> rfl

end Values

/-! ## Lines -/

section Lines

variable {text : List Char}

/-- A key is written as it is where all its characters may stand there, and else as a string. -/
theorem toList_keyText (k : String) :
    ((keyText k).toList = k.toList ∧ k.toList ≠ [] ∧ ∀ c ∈ k.toList, isBareKeyChar c = true) ∨
      (keyText k).toList = quoteChars k := by
  unfold keyText
  split
  · next h => exact .inl ⟨rfl, h.1, List.all_eq_true.1 h.2⟩
  · exact .inr String.toList_ofList

theorem isBasic_of_isBareKeyChar {c : Char} (h : isBareKeyChar c = true) : isBasic c = true := by
  simp only [isBareKeyChar, Bool.or_eq_true, decide_eq_true_eq] at h
  rcases h with (halphanum | rfl) | rfl
  · have hsmall : c.toNat < 128 := Text.toNat_lt_of_isAlphanum halphanum
    refine decide_eq_true ?_
    omega
  · rfl
  · rfl

theorem exists_head_keyText (k : String) : ∃ c more, (keyText k).toList = c :: more ∧
    (isBareKeyChar c = true ∨ c = '"') := by
  rcases toList_keyText k with ⟨htext, hne, hbare⟩ | htext
  · obtain ⟨c, more, hcons⟩ := List.exists_cons_of_ne_nil hne
    exact ⟨c, more, htext.trans hcons, .inl (hbare c (hcons ▸ List.mem_cons_self))⟩
  · exact ⟨'"', _, htext, .inr rfl⟩

theorem keyPart_keyText (k : String) (rest : List Char) :
    keyPart ((keyText k).toList ++ ' ' :: rest) =
      if inBasicPlane k then .ok (k, skipBlanks rest) else malformed := by
  have hblanks : skipBlanks (' ' :: rest) = skipBlanks rest := rfl
  unfold keyPart
  rcases toList_keyText k with ⟨htext, hne, hbare⟩ | htext
  · have hplane : inBasicPlane k = true :=
      List.all_eq_true.2 fun c hc => isBasic_of_isBareKeyChar (hbare c hc)
    have hstop : ∀ c, (' ' :: rest).head? = some c → isBareKeyChar c = false := by
      rintro c ⟨⟩
      rfl
    rw [htext, Text.span1?_append_of_stop hbare hne hstop, if_pos hplane]
    dsimp only
    rw [hblanks, String.ofList_toList]
  · have hopening : Text.span1? isBareKeyChar (quoteChars k ++ ' ' :: rest) = none := rfl
    rw [htext, hopening, lineString_quoteChars]
    cases inBasicPlane k with
    | false => rfl
    | true => simp [Except.map, hblanks]

/-- The key of a line is read up to its value. -/
theorem keyAndEquals_keyText (k : String) (hopens : OpensItem text) :
    keyAndEquals ((keyText k).toList ++ ' ' :: '=' :: ' ' :: text) =
      if inBasicPlane k then .ok ([k], text) else malformed := by
  have hequals : skipBlanks ('=' :: ' ' :: text) = '=' :: ' ' :: text := rfl
  have hvalue : skipBlanks (' ' :: text) = text := by
    obtain ⟨c, more, rfl, hblank, -⟩ := hopens
    show (c :: more).dropWhile isBlank = c :: more
    rw [List.dropWhile_cons_of_neg (by simp [hblank])]
  unfold keyAndEquals readKey
  rw [keyFrom, keyPart_keyText, hequals]
  cases inBasicPlane k with
  | false => rfl
  | true => exact congrArg (fun rest => Except.ok ([k], rest)) hvalue

theorem pairStatement_of_ok {s t : State} {key : Key} {v : Json} {rest after : List Char}
    (hkey : keyAndEquals text = .ok (key, rest)) (hvalue : readValue rest = .ok (v, after))
    (hset : setKey s key v = .ok t) : pairStatement s text = .ok (t, after) := by
  simp only [pairStatement, hkey, hvalue, hset, bind, Except.bind, pure, Except.pure]

theorem pairStatement_of_bad_key {s : State} (h : keyAndEquals text = malformed) :
    pairStatement s text = malformed := by
  simp only [pairStatement, h]
  rfl

theorem pairStatement_of_bad_value {s : State} {key : Key} {rest : List Char} {e : ReadError}
    (hkey : keyAndEquals text = .ok (key, rest)) (hvalue : readValue rest = .error e) :
    pairStatement s text = .error e := by
  simp only [pairStatement, hkey, bind, Except.bind, hvalue]

/-- The pair of a line is read where it has no surrogates, and its line is read to the end. -/
theorem pairStatement_line (k : String) {v : Json} (h : Writable v) (htext : valueChars v = .ok text) :
    pairStatement {} ((keyText k).toList ++ ' ' :: '=' :: ' ' :: text) =
      if (k :: strings v).all inBasicPlane then
        (setKey {} [k] v).map fun s => (s, [])
      else malformed := by
  have hkey := keyAndEquals_keyText k (opensItem_valueChars htext)
  have hvalue : readValue text = if (strings v).all inBasicPlane then .ok (v, []) else malformed := by
    have hread := value_valueChars h text (2 * text.length + 2) [] htext endsItem_nil (by omega)
    rwa [List.append_nil] at hread
  rw [List.all_cons]
  cases hplane : inBasicPlane k with
  | false =>
    rw [hplane] at hkey
    exact pairStatement_of_bad_key hkey
  | true =>
    rw [hplane] at hkey
    cases hstrings : (strings v).all inBasicPlane with
    | false =>
      rw [hstrings] at hvalue
      exact pairStatement_of_bad_value hkey hvalue
    | true =>
      rw [hstrings] at hvalue
      exact pairStatement_of_ok hkey hvalue rfl

theorem statement_of_key {s : State} {c : Char} (h : isBareKeyChar c = true ∨ c = '"')
    (text : List Char) : statement s (c :: text) = pairStatement s (c :: text) := by
  rw [statement, if_pos]
  rcases h with h | rfl
  · simp [h]
  · rfl

/-- The first character of a key is neither a blank nor a line end. -/
theorem not_blank_of_key {c : Char} (h : isBareKeyChar c = true ∨ c = '"') :
    isBlank c = false ∧ c ≠ '\n' := by
  have hne (d : Char) (hd : isBareKeyChar d = false) (hquote : d ≠ '"') : c ≠ d := by
    rintro rfl
    rcases h with h | h
    · rw [hd] at h
      cases h
    · exact hquote h
  simp [isBlank, hne ' ' rfl (by decide), hne '\t' rfl (by decide), hne '\n' rfl (by decide)]

/-- The lines of a document whose first one takes all of it. -/
theorem lines_of_key {s : State} {c : Char} {bound : Nat} (h : isBareKeyChar c = true ∨ c = '"')
    (hread : ∀ t rest, pairStatement s (c :: text) = .ok (t, rest) → rest = []) :
    lines (bound + 1) s (c :: text) = (pairStatement s (c :: text)).map (·.1) := by
  obtain ⟨hblank, hline⟩ := not_blank_of_key h
  have hskip : skipBlanks (c :: text) = c :: text := List.dropWhile_cons_of_neg (by simp [hblank])
  rw [lines, hskip]
  split
  · next heq => cases heq
  · next heq => exact absurd (List.cons.inj heq).1 hline
  · rw [statement_of_key h]
    cases hpair : pairStatement s (c :: text) with
    | error e => rfl
    | ok found =>
      obtain ⟨t, rest⟩ := found
      cases hread t rest hpair
      rfl

/-- A document of one line, when its pair takes all of it. -/
theorem parse_line (k : String) (hread : ∀ t rest,
      pairStatement {} ((keyText k).toList ++ ' ' :: '=' :: ' ' :: text) = .ok (t, rest) → rest = []) :
    parse (keyText k ++ " = " ++ String.ofList text) =
      (pairStatement {} ((keyText k).toList ++ ' ' :: '=' :: ' ' :: text)).map (·.1.root) := by
  have hline : (keyText k ++ " = " ++ String.ofList text).toList =
      (keyText k).toList ++ ' ' :: '=' :: ' ' :: text := by simp
  obtain ⟨c, more, hcons, hc⟩ := exists_head_keyText k
  unfold parse
  rw [hline]
  rw [hcons, List.cons_append] at hread ⊢
  rw [lines_of_key hc hread]
  cases pairStatement {} (c :: (more ++ ' ' :: '=' :: ' ' :: text)) <;> rfl

/-- A written line is read where it has no surrogates, and otherwise refused. -/
theorem parse_writtenLine (k : String) {v : Json} (h : Writable v) (htext : valueChars v = .ok text) :
    parse (keyText k ++ " = " ++ String.ofList text) =
      if (k :: strings v).all inBasicPlane then .ok [(k, v)] else .error .malformed := by
  have hpair := pairStatement_line k h htext
  rw [parse_line, hpair]
  · cases (k :: strings v).all inBasicPlane <;> rfl
  · intro t rest hread
    rw [hpair] at hread
    split at hread
    · cases hread
      rfl
    · cases hread

end Lines

/-- **A written line is read back where it has no surrogates**: the document of a key and a value gives
that value under that key where all their characters lie in the basic plane, and else it cannot be
read. -/
theorem line_read_back (k : String) {v : Json} (h : Writable v) :
    ∃ text, valueText v = .ok text ∧ parse (keyText k ++ " = " ++ text) =
      if (k :: strings v).all inBasicPlane then .ok [(k, v)] else .error .malformed := by
  obtain ⟨text, htext⟩ := exists_valueChars h
  refine ⟨String.ofList text, ?_, parse_writtenLine k h htext⟩
  rw [valueText, htext]
  rfl

/-- The line of an integer with more digits than are converted is refused for its digits. -/
theorem integerLine_refused {k : String} (hk : inBasicPlane k = true) {i : Int}
    (h : Numeral.maxDigits < (Nat.toDigits 10 i.natAbs).length) :
    parse (keyText k ++ " = " ++ String.ofList (Json.intText i)) =
      .error (.tooManyDigits (Nat.toDigits 10 i.natAbs).length) := by
  have hopens : OpensItem (Json.intText i) := opensItem_valueChars (v := .int i) rfl
  have hkey := keyAndEquals_keyText k hopens
  rw [if_pos hk] at hkey
  have hvalue : readValue (Json.intText i) =
      .error (.tooManyDigits (Nat.toDigits 10 i.natAbs).length) := by
    have hread := (value_intText (2 * (Json.intText i).length + 1) i endsItem_nil)
    rw [List.append_nil, readInteger, if_pos h] at hread
    exact hread
  have hpair := pairStatement_of_bad_value (s := {}) hkey hvalue
  rw [parse_line, hpair]
  · rfl
  · intro t rest hread
    rw [hpair] at hread
    cases hread

/-- A list with every kind of item, under a key that is written as a string. -/
def nestedList : Json :=
  .arr [.bool true, .int (-12), .arr [], .arr [.str "é\x7f\n\"", .arr [.int 0]], .str ""]

/-- Such a list is read back, with its quotes, controls and other characters. -/
theorem nestedList_read_back : Writable nestedList ∧ ∃ text, valueText nestedList = .ok text ∧
    parse (keyText "a. \x00" ++ " = " ++ text) = .ok [("a. \x00", nestedList)] := by
  have hint {i : Int} (hi : (Nat.toDigits 10 i.natAbs).length ≤ 4300) : Writable (.int i) := .int hi
  have hwritable : Writable nestedList := by
    refine .arr ?_
    simp only [List.forall_mem_cons]
    refine ⟨.bool true, hint (by decide), .arr (List.forall_mem_nil _), .arr ?_, .str _,
      List.forall_mem_nil _⟩
    simp only [List.forall_mem_cons]
    refine ⟨.str _, .arr ?_, List.forall_mem_nil _⟩
    simp only [List.forall_mem_cons]
    exact ⟨hint (by decide), List.forall_mem_nil _⟩
  have hplane : ("a. \x00" :: strings nestedList).all inBasicPlane = true := by decide
  obtain ⟨text, htext, hread⟩ := line_read_back "a. \x00" hwritable
  rw [if_pos hplane] at hread
  exact ⟨hwritable, text, htext, hread⟩

/-- A character beyond the basic plane is written as two surrogates, and the line cannot be read. -/
theorem supplementary_unread : Writable (.str "😀") ∧
    valueText (.str "😀") = .ok "\"\\ud83d\\ude00\"" ∧
    parse (keyText "a" ++ " = " ++ "\"\\ud83d\\ude00\"") = .error .malformed := by
  have hwritable : Writable (.str "😀") := .str "😀"
  have hquote : quoteChars "😀" = "\"\\ud83d\\ude00\"".toList := by decide
  have htext : valueChars (.str "😀") = .ok "\"\\ud83d\\ude00\"".toList := congrArg Except.ok hquote
  have hplane : ("a" :: strings (.str "😀")).all inBasicPlane = false := by decide
  have hread := parse_writtenLine "a" hwritable htext
  rw [String.ofList_toList, hplane] at hread
  refine ⟨hwritable, ?_, hread⟩
  rw [valueText, htext]
  exact congrArg Except.ok (String.ofList_toList)

end Testsmith.Toml
