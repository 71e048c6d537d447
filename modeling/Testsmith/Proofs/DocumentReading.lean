import Testsmith.Proofs.Scanning
import Testsmith.Toml.Document

/-!
# What documents are read as

Reading a document gives a table in which no key stands twice, at any depth (`tidy_of_parse`). A document
that is no TOML is refused as malformed; the only other failure is an integer with more digits than are
converted, and then the document has a row of that many digits (`hasLongRow_of_parse`).

Both come out of one pass over the readers. A reader yields a value with a property and leaves an end of
its text, or fails with too many digits only where its text has them (`Yields`), and what is read of an
end of a text counts for the text (`Yields.mono`).
-/

namespace Testsmith.Toml

/-! ## Yields -/

/-- A row of more digits than are converted, with underscores among them or not, is part of the text. -/
def HasLongRow (text : List Char) : Prop :=
  ∃ row, row <:+: text ∧ (∀ c ∈ row, c.isDigit = true ∨ c = '_') ∧
    Numeral.maxDigits < row.countP Char.isDigit

/-- A computation on a text gives a value with a property or fails, with too many digits only where the
text has them. -/
def Yields {α : Type} (text : List Char) (P : α → Prop) : Except ReadError α → Prop
  | .ok a => P a
  | .error .malformed => True
  | .error (.tooManyDigits _) => HasLongRow text

/-- A reader gives a value with a property and leaves an end of the text. -/
def Reads {α : Type} (text : List Char) (P : α → Prop) (x : Read α) : Prop :=
  Yields text (fun found => P found.1 ∧ found.2 <:+ text) x

section Yields

variable {α β : Type} {text rest : List Char} {P : α → Prop} {Q : β → Prop} {e : ReadError}

theorem HasLongRow.mono (h : HasLongRow rest) (hsuffix : rest <:+ text) : HasLongRow text := by
  obtain ⟨row, hrow, hchars, hlong⟩ := h
  exact ⟨row, hrow.trans hsuffix.isInfix, hchars, hlong⟩

theorem Yields.of_ok {x : Except ReadError α} {a : α} (h : Yields text P x) (hx : x = .ok a) : P a := by
  subst hx
  exact h

theorem Yields.of_error {x : Except ReadError α} (h : Yields text P x) (hx : x = .error e) :
    Yields text Q (.error e) := by
  subst hx
  cases e <;> exact h

theorem Yields.imp {R : α → Prop} {x : Except ReadError α} (h : Yields text P x)
    (himp : ∀ a, P a → R a) : Yields text R x := by
  cases x with
  | ok a => exact himp a h
  | error e => exact h.of_error rfl

/-- What holds of an end of a text holds of the text. -/
theorem Yields.mono {x : Except ReadError α} (h : Yields rest P x) (hsuffix : rest <:+ text) :
    Yields text P x := by
  cases x with
  | ok a => exact h
  | error e =>
    cases e with
    | malformed => trivial
    | tooManyDigits count => exact HasLongRow.mono h hsuffix

theorem Yields.bind {x : Except ReadError α} {f : α → Except ReadError β} (h : Yields text P x)
    (hf : ∀ a, P a → Yields text Q (f a)) : Yields text Q (x >>= f) := by
  cases x with
  | ok a => exact hf a h
  | error e => exact h.of_error rfl

theorem Yields.map {x : Except ReadError α} {f : α → β} (h : Yields text P x)
    (hf : ∀ a, P a → Q (f a)) : Yields text Q (x.map f) := by
  cases x with
  | ok a => exact hf a h
  | error e => exact h.of_error rfl

theorem yields_malformed : Yields text P malformed := trivial

theorem Reads.mono {x : Read α} (h : Reads rest P x) (hsuffix : rest <:+ text) : Reads text P x :=
  (h.imp fun _ ⟨hvalue, hrest⟩ => ⟨hvalue, hrest.trans hsuffix⟩).mono hsuffix

end Yields

/-! ## Blanks and comments -/

section Readers

variable {text rest : List Char}

theorem skipBlanks_suffix (text : List Char) : skipBlanks text <:+ text := List.dropWhile_suffix _

theorem skipComment_yields (text : List Char) :
    Yields text (fun rest => rest <:+ text) (skipComment text) := by
  unfold skipComment
  split
  · next rest =>
    split
    · exact yields_malformed
    · exact (List.dropWhile_suffix _).trans (List.suffix_cons _ _)
  · exact List.suffix_rfl

theorem skipSpace_yields (inComment : Bool) (text : List Char) :
    Yields text (fun rest => rest <:+ text) (skipSpace inComment text) := by
  induction text generalizing inComment with
  | nil => cases inComment <;> exact List.suffix_rfl
  | cons c text ih =>
    have hrest (b : Bool) : Yields (c :: text) (fun rest => rest <:+ c :: text) (skipSpace b text) :=
      ((ih b).imp fun _ h => h.trans (List.suffix_cons c text)).mono (List.suffix_cons c text)
    cases inComment with
    | true =>
      rw [skipSpace]
      split
      · exact hrest false
      split
      · exact yields_malformed
      · exact hrest true
    | false =>
      rw [skipSpace]
      split
      · exact hrest false
      split
      · exact hrest true
      · exact List.suffix_rfl

/-! ## Strings -/

theorem codePoint_yields (width : Nat) (text : List Char) :
    Yields rest (fun _ => True) (codePoint width text) := by
  unfold codePoint
  split
  · exact yields_malformed
  · dsimp only
    split
    · trivial
    · exact yields_malformed

theorem escapeValue_yields (multiline : Bool) (text : List Char) :
    Yields rest (fun _ => True) (escapeValue multiline text) := by
  unfold escapeValue
  split
  · exact yields_malformed
  split
  · unfold continuation
    split
    · trivial
    · trivial
    · exact yields_malformed
  split
  · exact codePoint_yields 4 _
  split
  · exact codePoint_yields 8 _
  split
  all_goals trivial

theorem prepend_reads {chars : List Char} {x : Read (List Char)} (h : Reads text (fun _ => True) x) :
    Reads text (fun _ => True) (prepend chars x) := by
  unfold prepend
  split
  · exact ⟨trivial, h.2⟩
  · exact h.of_error rfl

theorem basicBody_reads (multiline : Bool) (covered : Nat) (text : List Char) :
    Reads text (fun _ => True) (basicBody multiline covered text) := by
  induction text generalizing covered with
  | nil => cases covered <;> exact yields_malformed
  | cons c text ih =>
    have hrest (covered : Nat) : Reads (c :: text) (fun _ => True) (basicBody multiline covered text) :=
      (ih covered).mono (List.suffix_cons c text)
    cases covered with
    | succ covered => exact hrest covered
    | zero =>
      rw [basicBody]
      split
      · split
        · exact ⟨trivial, List.suffix_cons c text⟩
        split
        · exact ⟨trivial, (List.drop_suffix 2 text).trans (List.suffix_cons c text)⟩
        · exact prepend_reads (hrest 0)
      split
      · split
        · next e he => exact (escapeValue_yields multiline text).of_error he
        · next chars width _ => exact prepend_reads (hrest width)
      split
      · exact yields_malformed
      · exact prepend_reads (hrest 0)

theorem after?_suffix {word : String} (h : Text.after? word text = some rest) : rest <:+ text :=
  ⟨word.toList, (Text.eq_append_of_after? h).symm⟩

theorem literalBody_reads (closing : String) (mayBreak : Bool) (text : List Char) :
    Reads text (fun _ => True) (literalBody closing mayBreak text) := by
  induction text with
  | nil => exact yields_malformed
  | cons c text ih =>
    rw [literalBody]
    split
    · next rest h => exact ⟨trivial, after?_suffix h⟩
    split
    · exact yields_malformed
    · exact prepend_reads (ih.mono (List.suffix_cons c text))

theorem skipFirstLineEnd_suffix (text : List Char) : skipFirstLineEnd text <:+ text := by
  unfold skipFirstLineEnd
  split
  · exact List.suffix_cons _ _
  · exact List.suffix_rfl

theorem withExtraQuotes_reads {mark : Char} {x : Read (List Char)}
    (h : Reads text (fun _ => True) x) : Reads text (fun _ => True) (withExtraQuotes mark x) := by
  unfold withExtraQuotes
  split
  · exact h.of_error rfl
  · exact ⟨trivial, (List.drop_suffix _ _).trans h.2⟩

theorem lineString_reads (text : List Char) : Reads text (fun _ => True) (lineString text) := by
  unfold lineString
  split
  · exact (basicBody_reads false 0 _).mono (List.suffix_cons _ _)
  · exact (literalBody_reads "'" false _).mono (List.suffix_cons _ _)
  · exact yields_malformed

theorem string_reads (text : List Char) : Reads text (fun _ => True) (string text) := by
  unfold string
  refine Yields.map (P := fun found => True ∧ found.2 <:+ text) ?_ fun _ h => h
  split
  · next rest h =>
    have hsuffix := (skipFirstLineEnd_suffix rest).trans (after?_suffix h)
    exact withExtraQuotes_reads ((basicBody_reads true 0 _).mono hsuffix)
  · next rest _ h =>
    have hsuffix := (skipFirstLineEnd_suffix rest).trans (after?_suffix h)
    exact withExtraQuotes_reads ((literalBody_reads "'''" true _).mono hsuffix)
  · exact lineString_reads text

/-! ## Numbers -/

/-- A row of digits is read from a part of the text in which only underscores stand between them. -/
theorem exists_row_of_moreDigits (isDigit : Char → Bool) (text : List Char) :
    ∃ row, text = row ++ (moreDigits isDigit text).2 ∧
      (∀ c ∈ row, isDigit c = true ∨ c = '_') ∧
      (moreDigits isDigit text).1.length ≤ row.countP isDigit := by
  fun_induction moreDigits isDigit text with
  | case1 => exact ⟨[], rfl, by simp, Nat.le_refl 0⟩
  | case2 d rest hd digits after h ih =>
    rw [h] at ih
    obtain ⟨row, hrow, hchars, hcount⟩ := ih
    dsimp only at hrow hcount
    refine ⟨'_' :: d :: row, by rw [hrow]; rfl, ?_, ?_⟩
    · simpa [hd] using hchars
    · rw [List.countP_cons, List.countP_cons_of_pos hd]
      simp only [List.length_cons]
      omega
  | case3 d rest _ => exact ⟨[], rfl, by simp, Nat.le_refl 0⟩
  | case4 c rest _ hc digits after h ih =>
    rw [h] at ih
    obtain ⟨row, hrow, hchars, hcount⟩ := ih
    dsimp only at hrow hcount
    refine ⟨c :: row, by rw [hrow]; rfl, ?_, ?_⟩
    · simpa [hc] using hchars
    · rw [List.countP_cons_of_pos hc]
      simp only [List.length_cons]
      omega
  | case5 c rest _ _ => exact ⟨[], rfl, by simp, Nat.le_refl 0⟩

theorem exists_row_of_digits? {isDigit : Char → Bool} {digits : List Char}
    (h : digits? isDigit text = some (digits, rest)) :
    ∃ row, text = row ++ rest ∧ (∀ c ∈ row, isDigit c = true ∨ c = '_') ∧
      digits.length ≤ row.countP isDigit := by
  unfold digits? at h
  split at h
  · next c text =>
    split at h
    · next hc =>
      cases h
      obtain ⟨row, hrow, hchars, hcount⟩ := exists_row_of_moreDigits isDigit text
      refine ⟨c :: row, by rw [List.cons_append, ← hrow], ?_, ?_⟩
      · simpa [hc] using hchars
      · rw [List.countP_cons_of_pos hc]
        simp only [List.length_cons]
        omega
    · cases h
  · cases h

theorem digits?_suffix {isDigit : Char → Bool} {digits : List Char}
    (h : digits? isDigit text = some (digits, rest)) : rest <:+ text := by
  obtain ⟨row, hrow, -⟩ := exists_row_of_digits? h
  exact ⟨row, hrow.symm⟩

theorem exists_row_of_wholeDigits? {whole : List Char} (h : wholeDigits? text = some (whole, rest)) :
    ∃ row, text = row ++ rest ∧ (∀ c ∈ row, c.isDigit = true ∨ c = '_') ∧
      whole.length ≤ row.countP Char.isDigit := by
  unfold wholeDigits? at h
  split at h
  · cases h
    exact ⟨['0'], rfl, by simp, Nat.le_refl 1⟩
  · exact exists_row_of_digits? h

theorem basedInteger?_suffix {n : Int} (h : basedInteger? text = some (n, rest)) : rest <:+ text := by
  have hread {mark : String} {isDigit : Char → Bool} {after : List Char}
      {found : List Char × List Char} (hmark : Text.after? mark text = some after)
      (hdigits : digits? isDigit after = some found) : found.2 <:+ text :=
    (digits?_suffix hdigits).trans (after?_suffix hmark)
  simp only [basedInteger?, Option.or_eq_some_iff, Option.bind_eq_bind, Option.bind_eq_some_iff,
    Option.pure_def, Option.some.injEq, Prod.mk.injEq] at h
  rcases h with (⟨after, hmark, found, hdigits, -, rfl⟩ | ⟨-, after, hmark, found, hdigits, -, rfl⟩) |
    ⟨-, after, hmark, found, hdigits, -, rfl⟩
  · exact hread hmark hdigits
  · exact hread hmark hdigits
  · exact hread hmark hdigits

theorem fractionDigits_suffix (text : List Char) : (fractionDigits text).2 <:+ text := by
  unfold fractionDigits
  split
  · next more =>
    cases h : digits? Char.isDigit more with
    | none => exact List.suffix_rfl
    | some found => exact (digits?_suffix h).trans (List.suffix_cons _ _)
  · exact List.suffix_rfl

theorem sign_suffix (text : List Char) : (Numeral.sign text).2 <:+ text := by
  unfold Numeral.sign
  split
  · exact List.suffix_cons _ _
  · exact List.suffix_cons _ _
  · exact List.suffix_rfl

theorem exponent?_suffix {n : Int} (h : exponent? text = some (n, rest)) : rest <:+ text := by
  unfold exponent? at h
  split at h
  · cases h
  · next c more =>
    split at h
    · simp only [Option.bind_eq_bind, Option.bind_eq_some_iff, Option.pure_def, Option.some.injEq,
        Prod.mk.injEq] at h
      obtain ⟨⟨digits, after⟩, hdigits, -, rfl⟩ := h
      exact ((digits?_suffix hdigits).trans (sign_suffix more)).trans (List.suffix_cons c more)
    · cases h

/-- A decimal number leaves an end of the text, and has too many digits only where the text has. -/
theorem decimal?_reads {x : Read Json} {P : Json → Prop} (hint : ∀ n, P (.int n))
    (hfloat : ∀ f, P (.float f)) (h : decimal? text = some x) : Reads text P x := by
  unfold decimal? at h
  simp only [Option.bind_eq_bind, Option.bind_eq_some_iff] at h
  obtain ⟨⟨whole, after⟩, hwhole, h⟩ := h
  obtain ⟨row, hrow, hchars, hcount⟩ := exists_row_of_wholeDigits? hwhole
  have hsigned := sign_suffix text
  have hunsigned : after <:+ text := List.IsSuffix.trans ⟨row, hrow.symm⟩ hsigned
  have hfraction := (fractionDigits_suffix after).trans hunsigned
  dsimp only at h
  split at h
  · split at h
    · next hlong =>
      cases h
      have hinfix : row <:+: text :=
        List.IsInfix.trans ⟨[], after, hrow.symm⟩ hsigned.isInfix
      exact ⟨row, hinfix, hchars, Nat.lt_of_lt_of_le hlong hcount⟩
    · cases h
      exact ⟨hint _, hfraction⟩
  · cases h
    refine ⟨hfloat _, ?_⟩
    cases hpower : exponent? (fractionDigits after).2 with
    | none => exact hfraction
    | some found => exact (exponent?_suffix hpower).trans hfraction

/-! ## Dates, times and other scalars -/

theorem fixedNumber?_suffix {width least greatest n : Nat}
    (h : fixedNumber? width least greatest text = some (n, rest)) : rest <:+ text := by
  unfold fixedNumber? at h
  dsimp only at h
  split at h
  · cases h
    exact List.drop_suffix _ _
  · cases h

theorem afterChar?_suffix {mark : Char} (h : afterChar? mark text = some rest) : rest <:+ text := by
  unfold afterChar? at h
  split at h
  · split at h
    · cases h
      exact List.suffix_cons _ _
    · cases h
  · cases h

theorem afterTime?_suffix (h : afterTime? text = some rest) : rest <:+ text := by
  simp only [afterTime?, Option.bind_eq_bind, Option.bind_eq_some_iff] at h
  obtain ⟨⟨hour, a⟩, hhour, b, hfirst, ⟨minute, c⟩, hminute, d, hsecond, ⟨second, e⟩, hseconds, h⟩ := h
  have hsuffix : e <:+ text :=
    (fixedNumber?_suffix hseconds).trans <| (afterChar?_suffix hsecond).trans <|
      (fixedNumber?_suffix hminute).trans <| (afterChar?_suffix hfirst).trans (fixedNumber?_suffix hhour)
  dsimp only at h
  split at h
  · next digit more =>
    cases h
    split
    · exact ((List.dropWhile_suffix _).trans
        ((List.suffix_cons digit more).trans (List.suffix_cons _ _))).trans hsuffix
    · exact hsuffix
  · cases h
    exact hsuffix

/-- What a part that may be missing leaves. -/
theorem getD_suffix {part : Option (List Char)} (h : ∀ rest, part = some rest → rest <:+ text) :
    part.getD text <:+ text := by
  cases part with
  | none => exact List.suffix_rfl
  | some rest => exact h rest rfl

theorem afterOffset_suffix (text : List Char) : afterOffset text <:+ text := by
  unfold afterOffset
  split
  · exact List.suffix_rfl
  · next c more =>
    split
    · exact List.suffix_cons c more
    split
    · refine getD_suffix fun rest h => ?_
      simp only [Option.bind_eq_bind, Option.bind_eq_some_iff, Option.pure_def, Option.some.injEq] at h
      obtain ⟨⟨hour, a⟩, hhour, b, hmark, ⟨minute, d⟩, hminute, rfl⟩ := h
      exact (fixedNumber?_suffix hminute).trans <| (afterChar?_suffix hmark).trans <|
        (fixedNumber?_suffix hhour).trans (List.suffix_cons c more)
    · exact List.suffix_rfl

theorem date?_suffix {known : Bool} (h : date? text = some (known, rest)) : rest <:+ text := by
  simp only [date?, Option.bind_eq_bind, Option.bind_eq_some_iff] at h
  obtain ⟨⟨year, a⟩, hyear, b, hfirst, ⟨month, c⟩, hmonth, d, hsecond, ⟨day, e⟩, hday, h⟩ := h
  have hsuffix : e <:+ text :=
    (fixedNumber?_suffix hday).trans <| (afterChar?_suffix hsecond).trans <|
      (fixedNumber?_suffix hmonth).trans <| (afterChar?_suffix hfirst).trans (fixedNumber?_suffix hyear)
  cases h
  refine (getD_suffix fun rest h => ?_).trans hsuffix
  split at h
  · next mark more heq =>
    have he : e = mark :: more := heq
    rw [he]
    split at h
    · obtain ⟨after, htime, rfl⟩ := Option.map_eq_some_iff.1 h
      exact ((afterOffset_suffix after).trans (afterTime?_suffix htime)).trans
        (List.suffix_cons mark more)
    · cases h
  · cases h

theorem plainScalar_reads {P : Json → Prop} (hnull : P .null) (hbool : ∀ b, P (.bool b))
    (hint : ∀ n, P (.int n)) (hfloat : ∀ f, P (.float f)) (text : List Char) :
    Reads text P (plainScalar text) := by
  unfold plainScalar
  split
  · next rest h => exact ⟨hbool true, after?_suffix h⟩
  · next rest _ h => exact ⟨hbool false, after?_suffix h⟩
  · split
    · next known rest h =>
      split
      · exact ⟨hnull, date?_suffix h⟩
      · exact yields_malformed
    · next rest _ h => exact ⟨hnull, afterTime?_suffix h⟩
    · split
      · next n rest h => exact ⟨hint n, basedInteger?_suffix h⟩
      · next found _ h => exact decimal?_reads hint hfloat h
      · split
        · next h =>
          obtain ⟨pair, -, hpair⟩ := List.exists_of_findSome?_eq_some h
          obtain ⟨after, hafter, hfound⟩ := Option.map_eq_some_iff.1 hpair
          cases hfound
          exact ⟨hfloat _, after?_suffix hafter⟩
        · exact yields_malformed

/-! ## Keys -/

theorem keyPart_reads (text : List Char) : Reads text (fun _ => True) (keyPart text) := by
  unfold keyPart
  split
  · next name rest h =>
    have hrest : rest <:+ text := ⟨name, Text.span1?_append h⟩
    exact ⟨trivial, (skipBlanks_suffix rest).trans hrest⟩
  · exact (lineString_reads text).map fun _ ⟨_, h⟩ => ⟨trivial, (skipBlanks_suffix _).trans h⟩

theorem keyFrom_reads (bound : Nat) (text : List Char) :
    Reads text (fun _ => True) (keyFrom bound text) := by
  induction bound generalizing text with
  | zero => exact yields_malformed
  | succ bound ih =>
    have hpart := keyPart_reads text
    unfold keyFrom
    split
    · next e he => exact hpart.of_error he
    · next part rest h =>
      have hrest : skipBlanks rest <:+ text :=
        ((skipBlanks_suffix rest).trans (List.suffix_cons '.' rest)).trans (hpart.of_ok h).2
      have hmore := (ih (skipBlanks rest)).mono hrest
      split
      · next parts after hparts => exact ⟨trivial, (hmore.of_ok hparts).2⟩
      · next e he => exact hmore.of_error he
    · next part rest _ h => exact ⟨trivial, (hpart.of_ok h).2⟩

theorem readKey_reads (text : List Char) : Reads text (fun _ => True) (readKey text) :=
  keyFrom_reads (text.length + 1) text

theorem keyAndEquals_reads (text : List Char) : Reads text (fun _ => True) (keyAndEquals text) := by
  have hkey := readKey_reads text
  unfold keyAndEquals
  split
  · next key rest h =>
    exact ⟨trivial, ((skipBlanks_suffix rest).trans (List.suffix_cons '=' rest)).trans (hkey.of_ok h).2⟩
  · exact yields_malformed
  · next e he => exact hkey.of_error he

end Readers

/-! ## Tables -/

/-- No object in the value has a key twice. -/
inductive Tidy : Json → Prop
  | null : Tidy .null
  | bool (b : Bool) : Tidy (.bool b)
  | int (n : Int) : Tidy (.int n)
  | float (x : Binary64) : Tidy (.float x)
  | str (s : String) : Tidy (.str s)
  | arr {items : List Json} (tidy : ∀ j ∈ items, Tidy j) : Tidy (.arr items)
  | obj {fields : Json.Fields} (distinct : (fields.map (·.1)).Nodup)
      (tidy : ∀ field ∈ fields, Tidy field.2) : Tidy (.obj fields)

/-- A table in which no key stands twice, at any depth. -/
def TidyTable (table : Json.Fields) : Prop := Tidy (.obj table)

section Tables

variable {text : List Char} {table : Json.Fields} {key name : String} {v : Json}

theorem mem_set {field : String × Json} (h : field ∈ table.set key v) :
    field = (key, v) ∨ field ∈ table := by
  induction table with
  | nil => exact .inl (List.mem_singleton.1 h)
  | cons first table ih =>
    rw [Json.Fields.set] at h
    split at h
    · rcases List.mem_cons.1 h with h | h
      · exact .inl h
      · exact .inr (List.mem_cons_of_mem first h)
    · rcases List.mem_cons.1 h with rfl | h
      · exact .inr List.mem_cons_self
      · exact (ih h).imp_right (List.mem_cons_of_mem first)

theorem nodup_set (h : (table.map (·.1)).Nodup) (key : String) (v : Json) :
    ((table.set key v).map (·.1)).Nodup := by
  induction table with
  | nil => simp [Json.Fields.set]
  | cons first table ih =>
    rw [List.map_cons, List.nodup_cons] at h
    rw [Json.Fields.set]
    split
    · next heq => exact heq ▸ List.nodup_cons.2 h
    · next hne =>
      refine List.nodup_cons.2 ⟨fun hmem => ?_, ih h.2⟩
      obtain ⟨field, hfield, hname⟩ := List.mem_map.1 hmem
      rcases mem_set hfield with rfl | hfield
      · exact hne hname.symm
      · exact h.1 (List.mem_map.2 ⟨field, hfield, hname⟩)

theorem tidyTable_nil : TidyTable [] := .obj List.nodup_nil (List.forall_mem_nil _)

theorem TidyTable.set (h : TidyTable table) (hv : Tidy v) (key : String) :
    TidyTable (table.set key v) := by
  cases h with
  | obj distinct tidy =>
    refine .obj (nodup_set distinct key v) fun field hfield => ?_
    rcases mem_set hfield with rfl | hfield
    · exact hv
    · exact tidy field hfield

theorem TidyTable.get? (h : TidyTable table) (hv : Json.Fields.get? table key = some v) : Tidy v := by
  cases h with
  | obj distinct tidy =>
    have hmem : (key, v) ∈ table := by
      obtain ⟨before, after, rfl, -⟩ := List.lookup_eq_some_iff.1 hv
      simp
    exact tidy (key, v) hmem

theorem addNew_yields (h : TidyTable table) (hv : Tidy v) : Yields text TidyTable (addNew name v table) := by
  unfold addNew
  split
  · exact yields_malformed
  · exact h.set hv name

theorem addTable_yields (h : TidyTable table) : Yields text TidyTable (addTable name table) := by
  have hempty : Tidy (.obj []) := tidyTable_nil
  unfold addTable
  split
  · exact h.set (.arr (by simpa using hempty)) name
  · next items hitems =>
    cases h.get? hitems with
    | arr tidy =>
      refine h.set (.arr fun j hj => ?_) name
      rcases List.mem_append.1 hj with hj | hj
      · exact tidy j hj
      · rw [List.mem_singleton.1 hj]
        exact hempty
  · exact yields_malformed

/-- A change that keeps tables tidy does so behind every key. -/
theorem changeAt_yields {change : Json.Fields → Except ReadError Json.Fields} (throughLists : Bool)
    (hchange : ∀ table, TidyTable table → Yields text TidyTable (change table)) (parts : Key)
    {table : Json.Fields} (h : TidyTable table) :
    Yields text TidyTable (changeAt throughLists change parts table) := by
  induction parts generalizing table with
  | nil => exact hchange table h
  | cons part parts ih =>
    unfold changeAt
    split
    · exact (ih tidyTable_nil).map fun inner hinner => h.set hinner part
    · next inner hinner => exact (ih (h.get? hinner)).map fun inner hinner => h.set hinner part
    · next items hitems =>
      cases h.get? hitems with
      | arr tidy =>
        split
        · next inner hlast =>
          have hinner : TidyTable inner := tidy _ (List.mem_of_getLast? hlast)
          refine (ih hinner).map fun inner hinner => h.set (.arr fun j hj => ?_) part
          rcases List.mem_append.1 hj with hj | hj
          · exact tidy j ((List.dropLast_sublist items).subset hj)
          · rw [List.mem_singleton.1 hj]
            exact hinner
        · exact yields_malformed
    · exact yields_malformed

end Tables

/-! ## Values -/

section Values

variable {fuel : Nat}

/-- What the readers of values give within a number of calls. -/
structure ValueReads (fuel : Nat) : Prop where
  value : ∀ text, Reads text Tidy (value fuel text)
  items : ∀ text, Reads text (fun items => ∀ j ∈ items, Tidy j) (items fuel text)
  pairs : ∀ frozen table text, TidyTable table → Reads text TidyTable (pairs fuel frozen table text)

theorem valueReads_zero : ValueReads 0 := by
  refine ⟨fun text => ?_, fun text => ?_, fun frozen table text _ => ?_⟩
  · rw [value]
    exact yields_malformed
  · rw [items]
    exact yields_malformed
  · rw [pairs]
    exact yields_malformed

theorem ValueReads.value_succ (h : ValueReads fuel) (text : List Char) :
    Reads text Tidy (Toml.value (fuel + 1) text) := by
  rw [Toml.value.eq_def]
  split
  · exact yields_malformed
  · next fuel' rest heq =>
    cases heq
    have hcons := List.suffix_cons '[' rest
    have hspace := skipSpace_yields false rest
    split
    · next e he => exact (hspace.of_error he).mono hcons
    · next after hafter =>
      refine ⟨.arr (List.forall_mem_nil _), ?_⟩
      exact ((List.suffix_cons ']' after).trans (hspace.of_ok hafter)).trans hcons
    · next after _ hafter =>
      have hitems := (h.items after).mono ((hspace.of_ok hafter).trans hcons)
      exact hitems.map fun _ ⟨htidy, hrest⟩ => ⟨.arr htidy, hrest⟩
  · next fuel' rest heq =>
    cases heq
    have hblanks := (skipBlanks_suffix rest).trans (List.suffix_cons '\x7b' rest)
    split
    · next after hafter =>
      rw [hafter] at hblanks
      exact ⟨tidyTable_nil, (List.suffix_cons '\x7d' after).trans hblanks⟩
    · have hpairs := (h.pairs [] [] (skipBlanks rest) tidyTable_nil).mono hblanks
      exact hpairs.map fun _ h => h
  · next c rest _ _ heq =>
    split
    · exact (string_reads _).map fun _ ⟨_, hrest⟩ => ⟨.str _, hrest⟩
    · exact plainScalar_reads .null .bool .int .float _
  · exact yields_malformed

theorem ValueReads.items_succ (h : ValueReads fuel) (text : List Char) :
    Reads text (fun items => ∀ j ∈ items, Tidy j) (Toml.items (fuel + 1) text) := by
  have hitem := h.value text
  rw [Toml.items.eq_def]
  dsimp only
  split
  · next e he => exact hitem.of_error he
  · next item rest hread =>
    obtain ⟨htidy, hrest⟩ := hitem.of_ok hread
    have hone : ∀ j ∈ [item], Tidy j := by simpa using htidy
    have hspace := skipSpace_yields false rest
    split
    · next e he => exact (hspace.of_error he).mono hrest
    · next after hafter =>
      exact ⟨hone, ((List.suffix_cons ']' after).trans (hspace.of_ok hafter)).trans hrest⟩
    · next after hafter =>
      have hcomma : after <:+ text :=
        ((List.suffix_cons ',' after).trans (hspace.of_ok hafter)).trans hrest
      have hnext := skipSpace_yields false after
      split
      · next e he => exact (hnext.of_error he).mono hcomma
      · next last hlast =>
        exact ⟨hone, ((List.suffix_cons ']' last).trans (hnext.of_ok hlast)).trans hcomma⟩
      · next more _ hmore =>
        have hitems := (h.items more).mono ((hnext.of_ok hmore).trans hcomma)
        refine hitems.map fun _ ⟨hothers, hleft⟩ => ⟨?_, hleft⟩
        exact List.forall_mem_cons.2 ⟨htidy, hothers⟩
    · exact yields_malformed

theorem ValueReads.pairs_succ (h : ValueReads fuel) (frozen : List Key) {table : Json.Fields}
    (text : List Char) (htable : TidyTable table) :
    Reads text TidyTable (Toml.pairs (fuel + 1) frozen table text) := by
  have hkey := keyAndEquals_reads text
  rw [Toml.pairs.eq_def]
  dsimp only
  split
  · next e he => exact hkey.of_error he
  · next key rest hread =>
    have hrest := (hkey.of_ok hread).2
    have hvalue := (h.value rest).mono hrest
    split
    · next e he => exact hvalue.of_error he
    · next v after hv =>
      obtain ⟨htidy, hafter⟩ := hvalue.of_ok hv
      split
      · exact yields_malformed
      have hadd : Yields text TidyTable
          (changeAt false (addNew (key.getLastD "") v) key.dropLast table) :=
        changeAt_yields false (fun _ ht => addNew_yields ht htidy) key.dropLast htable
      split
      · next e he => exact hadd.of_error he
      · next added hadded =>
        have hblanks := (skipBlanks_suffix after).trans hafter
        split
        · next last hlast =>
          rw [hlast] at hblanks
          exact ⟨hadd.of_ok hadded, (List.suffix_cons '\x7d' last).trans hblanks⟩
        · next more hmore =>
          rw [hmore] at hblanks
          have hsuffix := (skipBlanks_suffix more).trans ((List.suffix_cons ',' more).trans hblanks)
          exact (h.pairs _ added _ (hadd.of_ok hadded)).mono hsuffix
        · exact yields_malformed

theorem valueReads (fuel : Nat) : ValueReads fuel := by
  induction fuel with
  | zero => exact valueReads_zero
  | succ fuel ih =>
    exact ⟨ih.value_succ, ih.items_succ, fun frozen _ text h => ih.pairs_succ frozen text h⟩

end Values

/-! ## Statements -/

section Statements

variable {s : State} {text : List Char}

/-- No key stands twice in what was read so far. -/
def TidyState (s : State) : Prop := TidyTable s.root

theorem setKey_yields {v : Json} (h : TidyState s) (hv : Tidy v) (key : Key) :
    Yields text TidyState (setKey s key v) := by
  unfold setKey
  dsimp only
  split
  · exact yields_malformed
  · exact (changeAt_yields true (fun _ ht => addNew_yields ht hv) _ h).bind fun _ hroot => hroot

theorem openTable_yields (h : TidyState s) (key : Key) : Yields text TidyState (openTable s key) := by
  unfold openTable
  dsimp only
  split
  · exact yields_malformed
  · have hkeep : ∀ table, TidyTable table → Yields text TidyTable (.ok table) := fun _ ht => ht
    exact (changeAt_yields true hkeep key h).bind fun _ hroot => hroot

theorem openItem_yields (h : TidyState s) (key : Key) : Yields text TidyState (openItem s key) := by
  unfold openItem
  split
  · exact yields_malformed
  · exact (changeAt_yields true (fun _ ht => addTable_yields ht) key.dropLast h).bind fun _ hroot => hroot

theorem headerStatement_reads (h : TidyState s) (text : List Char) :
    Reads text TidyState (headerStatement s text) := by
  unfold headerStatement
  split
  · next rest hrest =>
    have hkey := (readKey_reads (skipBlanks rest)).mono
      ((skipBlanks_suffix rest).trans (after?_suffix hrest))
    refine Yields.bind hkey fun ⟨key, after⟩ ⟨_, hafter⟩ => ?_
    refine Yields.bind (openItem_yields h key) fun t ht => ?_
    split
    · next last hlast => exact ⟨ht, (after?_suffix hlast).trans hafter⟩
    · exact yields_malformed
  · have hkey := (readKey_reads (skipBlanks (text.drop 1))).mono
      ((skipBlanks_suffix _).trans (List.drop_suffix 1 text))
    refine Yields.bind hkey fun ⟨key, after⟩ ⟨_, hafter⟩ => ?_
    refine Yields.bind (openTable_yields h key) fun t ht => ?_
    split
    · next last hread _ => exact ⟨ht, (List.suffix_cons ']' last).trans hread.2⟩
    · exact yields_malformed

theorem pairStatement_reads (h : TidyState s) (text : List Char) :
    Reads text TidyState (pairStatement s text) := by
  unfold pairStatement readValue
  refine Yields.bind (keyAndEquals_reads text) fun ⟨key, rest⟩ ⟨_, hrest⟩ => ?_
  refine Yields.bind (((valueReads _).value rest).mono hrest) fun ⟨v, after⟩ ⟨hv, hafter⟩ => ?_
  exact Yields.bind (setKey_yields h hv key) fun t ht => ⟨ht, hafter⟩

theorem statement_reads (h : TidyState s) (text : List Char) :
    Reads text TidyState (statement s text) := by
  unfold statement
  split
  · exact ⟨h, List.suffix_rfl⟩
  · split
    · exact pairStatement_reads h _
    split
    · exact headerStatement_reads h _
    split
    · exact ⟨h, List.suffix_rfl⟩
    · exact yields_malformed

theorem lines_yields (bound : Nat) (h : TidyState s) (text : List Char) :
    Yields text TidyState (lines bound s text) := by
  induction bound generalizing s text with
  | zero => exact yields_malformed
  | succ bound ih =>
    have hblanks := skipBlanks_suffix text
    unfold lines
    split
    · exact h
    · next rest hrest =>
      rw [hrest] at hblanks
      exact (ih h rest).mono ((List.suffix_cons '\n' rest).trans hblanks)
    · have hstatement := (statement_reads h (skipBlanks text)).mono hblanks
      split
      · next e he => exact hstatement.of_error he
      · next t rest hread =>
        obtain ⟨ht, hrest⟩ := hstatement.of_ok hread
        have hcomment := (skipComment_yields (skipBlanks rest)).mono
          ((skipBlanks_suffix rest).trans hrest)
        split
        · next e he => exact hcomment.of_error he
        · exact ht
        · next more hmore =>
          have hline : more <:+ text := (List.suffix_cons '\n' more).trans <|
            (hcomment.of_ok hmore).trans <| (skipBlanks_suffix rest).trans hrest
          exact (ih ht more).mono hline
        · exact yields_malformed

theorem parse_yields (document : String) :
    Yields document.toList TidyTable (parse document) := by
  have hempty : TidyState {} := tidyTable_nil
  exact (lines_yields _ hempty document.toList).map fun _ h => h

end Statements

/-- No key stands twice in what a document is read as. -/
theorem tidy_of_parse {document : String} {table : Json.Fields} (h : parse document = .ok table) :
    TidyTable table :=
  (parse_yields document).of_ok h

/-- Only a document with a long row of digits can fail otherwise than as malformed. -/
theorem hasLongRow_of_parse {document : String} {count : Nat}
    (h : parse document = .error (.tooManyDigits count)) : HasLongRow document.toList := by
  have hyields := parse_yields document
  rw [h] at hyields
  exact hyields

end Testsmith.Toml
