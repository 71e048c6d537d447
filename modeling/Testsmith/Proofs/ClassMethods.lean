import Mathlib.Data.List.Chain
import Testsmith.Proofs.ParameterLists
import Testsmith.Proofs.SourcePatterns

/-!
# Methods of a written class

The methods that are found in a class whose body is a sequence of declarations. A declaration without a
return type is not passed over: its bracket is not the end of a match, so the match that it opens goes on
to the next declaration that has a return type, and takes its name and its parameters from the first one
(`openings`). `methods_of_class` says what is found in every such class, and when that is what was
declared.
-/

namespace Testsmith.Source

open Text Signature

/-! ## Written classes -/

/-- A return type as it is written behind a parameter list. -/
structure WrittenReturn where
  beforeColon : Gap
  afterColon : Gap
  type : List Char
  ne_nil : type ≠ []
  all_type : type.all isTypeChar = true

theorem WrittenReturn.typeChars (r : WrittenReturn) : ∀ c ∈ r.type, isTypeChar c = true :=
  List.all_eq_true.1 r.all_type

/-- A declaration of a function as it is written. Its body is empty, or there is none. -/
structure Declaration where
  lead : Gap
  afterFun : Gap
  afterFun_ne : afterFun.text ≠ []
  name : Name
  beforeList : Gap
  parameters : List WrittenParameter
  returned : Option WrittenReturn
  body : Option Gap

/-- What stands in front of a class body. It declares no function. -/
structure Header where
  text : List Char
  no_function : ∀ blank, isBlank blank = true → ¬ ['f', 'u', 'n', blank] <:+: text

namespace Declaration

/-- The text from the keyword to the bracket of the parameter list. -/
def head (d : Declaration) : List Char :=
  'f' :: 'u' :: 'n' :: (d.afterFun.text ++ (d.name.text ++ (d.beforeList.text ++ ['('])))

/-- The text of a return type. -/
def returnText (d : Declaration) : List Char :=
  match d.returned with
  | some r => r.beforeColon.text ++ ':' :: (r.afterColon.text ++ r.type)
  | none => []

/-- The text of a body. -/
def bodyText (d : Declaration) : List Char :=
  match d.body with
  | some gap => gap.text ++ ['\x7b', '\x7d']
  | none => []

/-- The text of a declaration. -/
def text (d : Declaration) : List Char :=
  d.lead.text ++ (d.head ++ (listText d.parameters ++ ')' :: (d.returnText ++ d.bodyText)))

/-- The last thing in the text is a return type. -/
def endsInType (d : Declaration) : Bool := d.returned.isSome && d.body.isNone

/-- The name and the parameters of a declaration, with the return type of another one. -/
def methodWith (first d : Declaration) : Method where
  name := String.ofList first.name.text
  returnType := String.ofList ((d.returned.map (·.type)).getD [])
  parameters := first.parameters.map WrittenParameter.parameter

end Declaration

/-- A class whose body is a sequence of declarations. A return type at the end of a declaration does not
run into the next one. -/
structure ClassText where
  header : Header
  declarations : List Declaration
  separated : declarations.IsChain fun d e => d.endsInType = true → e.lead.text ≠ []
  tail : Gap
  footer : Gap

namespace ClassText

/-- The end of a class. -/
def ending (c : ClassText) : List Char := c.tail.text ++ '\x7d' :: c.footer.text

/-- The text of a class. -/
def text (c : ClassText) : List Char :=
  c.header.text ++ '\x7b' :: (c.declarations.flatMap Declaration.text ++ c.ending)

/-- The methods that are declared with a return type. -/
def declared (c : ClassText) : List Method :=
  (c.declarations.filter (·.returned.isSome)).map fun d => d.methodWith d

end ClassText

/-- Every declaration that has a return type, behind the one that opens the match which ends there: the
first one after the last such end. -/
def openings : (pending : Option Declaration) → List Declaration → List (Declaration × Declaration)
  | _, [] => []
  | pending, d :: ds =>
    if d.returned.isSome then (pending.getD d, d) :: openings none ds
    else openings (some (pending.getD d)) ds

theorem openings_cons_of_some {d : Declaration} {r : WrittenReturn} (hr : d.returned = some r)
    (pending : Option Declaration) (ds : List Declaration) :
    openings pending (d :: ds) = (pending.getD d, d) :: openings none ds := by
  simp [openings, hr]

theorem openings_cons_of_none {d : Declaration} (hr : d.returned = none)
    (pending : Option Declaration) (ds : List Declaration) :
    openings pending (d :: ds) = openings (some (pending.getD d)) ds := by
  simp [openings, hr]

theorem map_snd_openings (pending : Option Declaration) (ds : List Declaration) :
    (openings pending ds).map (·.2) = ds.filter (·.returned.isSome) := by
  induction ds generalizing pending with
  | nil => rfl
  | cons d ds ih =>
    cases hr : d.returned with
    | none => simp [openings_cons_of_none hr, ih, hr]
    | some r => simp [openings_cons_of_some hr, ih, hr]

/-! ## Return types -/

theorem isTypeChar_of_isBlank {c : Char} (h : isBlank c = true) : isTypeChar c = false :=
  not_blank_of_codes (by decide +kernel) h

theorem isBlank_of_isTypeChar {c : Char} (h : isTypeChar c = true) : isBlank c = false :=
  isBlank_of_class (fun _ => isTypeChar_of_isBlank) h

theorem returnTypeAfter_written {d : Declaration} {r : WrittenReturn} (hr : d.returned = some r)
    {rest : List Char} (hrest : ∀ c, rest.head? = some c → isTypeChar c = false) :
    returnTypeAfter (d.returnText ++ rest) = some (r.type, rest) := by
  have htext : d.returnText ++ rest =
      r.beforeColon.text ++ ':' :: (r.afterColon.text ++ (r.type ++ rest)) := by
    simp [Declaration.returnText, hr]
  have hmark : afterMark? ':' (d.returnText ++ rest) =
      some (r.afterColon.text ++ (r.type ++ rest)) := by
    rw [htext]
    exact afterMark?_append r.beforeColon.blank (by decide) _
  have hhead : ∀ c, (r.type ++ rest).head? = some c → isBlank c = false := by
    intro c hc
    obtain ⟨e, type, htype⟩ := List.exists_cons_of_ne_nil r.ne_nil
    rw [htype] at hc
    cases hc
    exact isBlank_of_isTypeChar (r.typeChars c (htype ▸ List.mem_cons_self))
  have hspan := span1?_append_of_stop r.typeChars r.ne_nil hrest
  rw [returnTypeAfter, hmark]
  show span1? isTypeChar (trimStart (r.afterColon.text ++ (r.type ++ rest))) = _
  rw [trimStart_append r.afterColon.blank, trimStart_of_head hhead, hspan]

/-! ## Heads -/

theorem method_eq_none {text : List Char} (h : named "fun" isWord text = none) :
    method text = none := by
  rw [method, h]
  rfl

theorem method_of_named {text name rest : List Char}
    (h : named "fun" isWord text = some (name, rest)) :
    method text = ((afterMark? '(' rest).bind (upToBracket returnTypeAfter)).map
      fun (inside, type, rest) =>
        ({ name := String.ofList name
           returnType := String.ofList type
           parameters := parameters (String.ofList ('(' :: inside ++ [')'])) }, rest) := by
  rw [method, h]
  show (afterMark? '(' rest >>= _) = _
  cases afterMark? '(' rest with
  | none => rfl
  | some list =>
    show (upToBracket returnTypeAfter list >>= _) = (upToBracket returnTypeAfter list).map _
    cases upToBracket returnTypeAfter list <;> rfl

/-- What a method is read from: a named function, a text between brackets and a return type. -/
theorem exists_of_method {text rest : List Char} {m : Method} (h : method text = some (m, rest)) :
    ∃ name afterName inside returned, named "fun" isWord text = some (name, afterName) ∧
      returned ≠ [] ∧ (∀ c ∈ returned, isTypeChar c = true) ∧
      m = { name := String.ofList name
            returnType := String.ofList returned
            parameters := Signature.parameters (String.ofList ('(' :: inside ++ [')'])) } := by
  simp only [method, Option.bind_eq_bind, Option.bind_eq_some_iff] at h
  obtain ⟨⟨name, afterName⟩, hnamed, list, -, ⟨inside, returned, behind⟩, hlist, ⟨⟩⟩ := h
  obtain ⟨afterList, -, htail⟩ := exists_of_upToBracket hlist
  simp only [returnTypeAfter, Option.bind_eq_bind, Option.bind_eq_some_iff] at htail
  obtain ⟨typed, -, hspan⟩ := htail
  obtain ⟨hne, hall⟩ := forall_of_span1? hspan
  exact ⟨name, afterName, inside, returned, hnamed, hne, hall, rfl⟩

/-- What is read from the keyword to the bracket of a parameter list. -/
theorem method_head_append (d : Declaration) (rest : List Char) :
    method (d.head ++ rest) =
      (upToBracket returnTypeAfter rest).map fun (inside, type, rest) =>
        ({ name := String.ofList d.name.text
           returnType := String.ofList type
           parameters := parameters (String.ofList ('(' :: inside ++ [')'])) }, rest) := by
  have hnamed : named "fun" isWord (d.head ++ rest) =
      some (d.name.text, d.beforeList.text ++ '(' :: rest) := by
    have htext : d.head ++ rest = "fun".toList ++
        (d.afterFun.text ++ (d.name.text ++ (d.beforeList.text ++ '(' :: rest))) := by
      simp [Declaration.head]
    rw [htext]
    exact named_written "fun" d.afterFun_ne d.name (head?_gap_mark d.beforeList (by decide))
  have hmark := afterMark?_append d.beforeList.blank (by decide : isBlank '(' = false) rest
  rw [method_of_named hnamed, hmark, Option.bind_some]

/-! ## Where no match is opened or ended -/

theorem method_of_unended {x : List Char} (h : Unended x []) : method x = none := by
  cases hnamed : named "fun" isWord x with
  | none => exact method_eq_none hnamed
  | some found =>
    obtain ⟨name, rest⟩ := found
    rw [method_of_named hnamed, Option.map_eq_none_iff, Option.bind_eq_none_iff]
    exact fun list hmark => h.list_eq_none (fun _ => returnTypeAfter_eq_none) hnamed hmark

/-- There is no method in a text where no bracket ends a match. -/
theorem allMatches_of_unended {x : List Char} (h : Unended x []) :
    allMatches (.ofReader method) x = [] := by
  have hread : ∀ u v, x = u ++ v → v ≠ [] → method (v ++ []) = none := by
    intro u v huv _
    rw [List.append_nil]
    rw [huv] at h
    exact method_of_unended h.of_append
  have hnil := allMatches_append_of_silent hread
  rwa [List.append_nil] at hnil

/-- A text in which no function is named is passed over. -/
theorem allMatches_append_of_unnamed {x rest : List Char} (h : Unnamed "fun" x rest) :
    allMatches (.ofReader method) (x ++ rest) = allMatches (.ofReader method) rest :=
  allMatches_append_of_silent (h.imp fun _ => method_eq_none)

theorem allMatches_append_of_not_mem {x : List Char} (h : 'f' ∉ x) (rest : List Char) :
    allMatches (.ofReader method) (x ++ rest) = allMatches (.ofReader method) rest :=
  allMatches_append_of_unnamed (unnamed_fun h)

theorem Header.lacks (h : Header) : Lacks "fun" h.text [] := by
  rintro u v huv - ⟨blank, w, hblank, hv⟩
  rw [List.append_nil] at hv
  exact h.no_function blank hblank ⟨u, w, by rw [huv, hv]; simp⟩

theorem Header.allMatches_append (h : Header) (rest : List Char) :
    allMatches (.ofReader method) (h.text ++ '\x7b' :: rest) = allMatches (.ofReader method) rest := by
  have hbrace : ∀ c, ('\x7b' :: rest).head? = some c →
      c ∉ "fun".toList.tail ∧ isBlank c = false := by
    rintro c ⟨⟩
    decide
  have hopen : 'f' ∉ ['\x7b'] := by decide
  rw [allMatches_append_of_unnamed (h.lacks.extend hbrace).unnamed]
  exact allMatches_append_of_not_mem hopen rest

/-! ## Pieces that end no match -/

section Pieces

variable {rest : List Char}

theorem unended_head (d : Declaration) : Unended d.head rest := by
  have hfun := not_mem_of_class d.afterFun.blank (by decide : isBlank ')' = false)
  have hname := not_mem_of_class d.name.word (by decide : isWord ')' = false)
  have hlist := not_mem_of_class d.beforeList.blank (by decide : isBlank ')' = false)
  refine .of_not_mem ?_
  simp [Declaration.head, hfun, hname, hlist]

/-- Behind the bracket of a declaration without a return type there is no colon. -/
theorem unended_declaration {d : Declaration} (hnone : d.returned = none)
    (hrest : (trimStart rest).head? ≠ some ':') :
    Unended d.text rest ∧ Unended (')' :: d.bodyText) rest := by
  have hbody : ')' ∉ d.bodyText := by
    unfold Declaration.bodyText
    split
    · next gap _ =>
      have hgap := not_mem_of_class gap.blank (by decide : isBlank ')' = false)
      simp [hgap]
    · exact List.not_mem_nil
  have hbehind : (trimStart (d.bodyText ++ rest)).head? ≠ some ':' := by
    unfold Declaration.bodyText
    split
    · next gap _ =>
      rw [List.append_assoc, trimStart_append gap.blank]
      exact head?_trimStart_cons (by decide) (by decide) _
    · exact hrest
  have hcloser : Unended (')' :: d.bodyText) rest :=
    ⟨fun _ => hbehind, .of_not_mem hbody⟩
  refine ⟨?_, hcloser⟩
  rw [Declaration.text, Declaration.returnText, hnone]
  exact (unended_gap d.lead).append ((unended_head d).append
    ((unended_listText d.parameters).append hcloser))

end Pieces

/-- The head of a declaration, what stands in its brackets and a return type are a match. -/
theorem allMatches_head {first d : Declaration} {r : WrittenReturn} (hr : d.returned = some r)
    {more rest : List Char}
    (hunended : Unended (listText first.parameters ++ more) (')' :: (d.returnText ++ rest)))
    (hmore : more = [] ∨ ∃ behind, more = ')' :: behind)
    (hrest : ∀ c, rest.head? = some c → isTypeChar c = false) :
    allMatches (.ofReader method)
        (first.head ++ (listText first.parameters ++ more ++ ')' :: (d.returnText ++ rest))) =
      first.methodWith d :: allMatches (.ofReader method) rest := by
  have hinside : ∃ behind, listText first.parameters ++ more ++ [')'] =
      listText first.parameters ++ ')' :: behind := by
    rcases hmore with rfl | ⟨behind, rfl⟩
    · exact ⟨[], by simp⟩
    · exact ⟨behind ++ [')'], by simp⟩
  obtain ⟨behind, hbehind⟩ := hinside
  have hmethod : method (first.head ++
      (listText first.parameters ++ more ++ ')' :: (d.returnText ++ rest))) =
      some (first.methodWith d, rest) := by
    rw [method_head_append, hunended.upToBracket_append fun _ => returnTypeAfter_eq_none,
      upToBracket_closer (returnTypeAfter_written hr hrest)]
    simp only [Option.map_some, List.append_nil, List.cons_append, hbehind,
      parameters_of_written, Declaration.methodWith, hr, Option.getD_some]
  have htext : first.head ++ (listText first.parameters ++ more ++ ')' :: (d.returnText ++ rest)) =
      (first.head ++ (listText first.parameters ++ more ++ ')' :: d.returnText)) ++ rest := by
    simp
  rw [htext] at hmethod ⊢
  refine allMatches_append_of_some ?_ hmethod
  simp [Declaration.head]

theorem not_blank_f : isBlank 'f' = false := by decide

/-- The match at a declaration starts behind the blanks before it. -/
theorem allMatches_text (d : Declaration) (rest : List Char) :
    allMatches (.ofReader method) (d.text ++ rest) = allMatches (.ofReader method)
      (d.head ++ (listText d.parameters ++ ')' :: (d.returnText ++ (d.bodyText ++ rest)))) := by
  have hlead := not_mem_of_class d.lead.blank not_blank_f
  rw [Declaration.text, List.append_assoc, allMatches_append_of_not_mem hlead]
  simp only [List.append_assoc, List.cons_append]

/-- No match starts in a body. -/
theorem allMatches_bodyText (d : Declaration) (rest : List Char) :
    allMatches (.ofReader method) (d.bodyText ++ rest) = allMatches (.ofReader method) rest := by
  refine allMatches_append_of_not_mem ?_ rest
  unfold Declaration.bodyText
  split
  · next gap _ =>
    have hgap := not_mem_of_class gap.blank not_blank_f
    simp [hgap]
  · exact List.not_mem_nil

/-! ## One declaration more -/

/-- The text from a declaration on whose match is open, with what the match has passed over behind the
first bracket. -/
def Declaration.opened (first : Declaration) (more rest : List Char) : List Char :=
  first.head ++ (listText first.parameters ++ ')' :: (more ++ rest))

section Step

variable {first d : Declaration} {r : WrittenReturn} {more rest : List Char}

theorem Declaration.opened_append :
    first.opened more (d.text ++ rest) = first.opened (more ++ d.text) rest := by
  rw [opened, opened, List.append_assoc]

/-- A declaration without a return type opens a match. -/
theorem allMatches_of_none (hr : d.returned = none) :
    allMatches (.ofReader method) (d.text ++ rest) =
      allMatches (.ofReader method) (d.opened d.bodyText rest) := by
  rw [allMatches_text, Declaration.returnText, hr]
  rfl

/-- A declaration with a return type is a match of its own. -/
theorem allMatches_of_some (hr : d.returned = some r)
    (hrest : ∀ c, (d.bodyText ++ rest).head? = some c → isTypeChar c = false) :
    allMatches (.ofReader method) (d.text ++ rest) =
      d.methodWith d :: allMatches (.ofReader method) rest := by
  have hunended : Unended (listText d.parameters) (')' :: (d.returnText ++ (d.bodyText ++ rest))) :=
    unended_listText d.parameters
  rw [← List.append_nil (listText d.parameters)] at hunended
  have hmatch := allMatches_head hr hunended (.inl rfl) hrest
  rw [List.append_nil, allMatches_bodyText] at hmatch
  rw [allMatches_text, hmatch]

/-- A declaration with a return type ends a match that is open. -/
theorem allMatches_opened_of_some (hr : d.returned = some r)
    (hmore : Unended (')' :: more) (d.text ++ rest))
    (hrest : ∀ c, (d.bodyText ++ rest).head? = some c → isTypeChar c = false) :
    allMatches (.ofReader method) (first.opened more (d.text ++ rest)) =
      first.methodWith d :: allMatches (.ofReader method) rest := by
  have htext : d.text ++ rest = (d.lead.text ++ (d.head ++ listText d.parameters)) ++
      ')' :: (d.returnText ++ (d.bodyText ++ rest)) := by
    simp [Declaration.text]
  rw [Declaration.opened, htext]
  rw [htext] at hmore
  have hpassed : Unended (d.lead.text ++ (d.head ++ listText d.parameters))
      (')' :: (d.returnText ++ (d.bodyText ++ rest))) :=
    (unended_gap d.lead).append ((unended_head d).append (unended_listText d.parameters))
  have hunended := (unended_listText first.parameters).append (hmore.append hpassed)
  have hmatch := allMatches_head hr hunended (.inr ⟨_, rfl⟩) hrest
  rw [allMatches_bodyText] at hmatch
  simp only [List.append_assoc, List.cons_append] at hmatch ⊢
  exact hmatch

/-- A match that nothing ends is no match. -/
theorem allMatches_opened_of_unended (hmore : Unended (')' :: more) rest) (hrest : Unended rest []) :
    allMatches (.ofReader method) (first.opened more rest) = [] := by
  rw [← List.append_nil rest] at hmore
  exact allMatches_of_unended ((unended_head first).append
    ((unended_listText first.parameters).append (hmore.append hrest)))

end Step

/-! ## Bodies -/

namespace ClassText

/-- The text of a class from some of its declarations on. -/
def bodyFrom (c : ClassText) (ds : List Declaration) : List Char :=
  ds.flatMap Declaration.text ++ c.ending

variable (c : ClassText) {d : Declaration} {ds : List Declaration}

theorem bodyFrom_nil : c.bodyFrom [] = c.ending := rfl

theorem bodyFrom_cons : c.bodyFrom (d :: ds) = d.text ++ c.bodyFrom ds := by
  rw [bodyFrom, List.flatMap_cons, List.append_assoc]
  rfl

theorem head?_trimStart_bodyFrom (ds : List Declaration) :
    (trimStart (c.bodyFrom ds)).head? ≠ some ':' := by
  cases ds with
  | nil =>
    rw [bodyFrom_nil, ending, trimStart_append c.tail.blank]
    exact head?_trimStart_cons (by decide) (by decide) _
  | cons d ds =>
    rw [bodyFrom_cons, Declaration.text, List.append_assoc, List.append_assoc,
      trimStart_append d.lead.blank, Declaration.head, List.cons_append]
    exact head?_trimStart_cons (by decide) (by decide) _

/-- What follows a return type is no part of it. -/
theorem isTypeChar_behind
    (hsep : (d :: ds).IsChain fun d e => d.endsInType = true → e.lead.text ≠ [])
    (hd : d.returned.isSome = true) (b : Char)
    (hb : (d.bodyText ++ c.bodyFrom ds).head? = some b) : isTypeChar b = false := by
  cases hbody : d.body with
  | some gap =>
    rw [Declaration.bodyText, hbody, List.append_assoc] at hb
    rcases head?_gap gap hb with h | rfl
    · exact isTypeChar_of_isBlank h
    · decide
  | none =>
    rw [Declaration.bodyText, hbody, List.nil_append] at hb
    cases ds with
    | nil =>
      rw [bodyFrom_nil, ending] at hb
      rcases head?_gap c.tail hb with h | rfl
      · exact isTypeChar_of_isBlank h
      · decide
    | cons e ds =>
      have hlead := (List.isChain_cons_cons.1 hsep).1 (by simp [Declaration.endsInType, hd, hbody])
      obtain ⟨a, lead, ha⟩ := List.exists_cons_of_ne_nil hlead
      rw [bodyFrom_cons, Declaration.text, ha] at hb
      cases hb
      exact isTypeChar_of_isBlank (e.lead.blank b (ha ▸ List.mem_cons_self))

theorem not_mem_ending {b : Char} (hblank : isBlank b = false) (hbrace : b ≠ '\x7d') :
    b ∉ c.ending := by
  have htail := not_mem_of_class c.tail.blank hblank
  have hfooter := not_mem_of_class c.footer.blank hblank
  simp [ending, htail, hfooter, hbrace]

theorem allMatches_ending : allMatches (.ofReader method) c.ending = [] := by
  have hskip := allMatches_append_of_not_mem (c.not_mem_ending not_blank_f (by decide)) []
  rw [List.append_nil] at hskip
  exact hskip

theorem unended_ending : Unended c.ending [] :=
  .of_not_mem (c.not_mem_ending (by decide) (by decide))

/-- The methods of a body are told by what opens their matches. The invariant is about a match that an
earlier declaration has opened: all that it has passed over ends no match. -/
theorem allMatches_bodyFrom (ds : List Declaration)
    (hsep : ds.IsChain fun d e => d.endsInType = true → e.lead.text ≠ []) :
    (allMatches (.ofReader method) (c.bodyFrom ds) =
      (openings none ds).map fun (first, d) => first.methodWith d) ∧
    ∀ (first : Declaration) (more : List Char), Unended (')' :: more) (c.bodyFrom ds) →
      allMatches (.ofReader method) (first.opened more (c.bodyFrom ds)) =
        (openings (some first) ds).map fun (first, d) => first.methodWith d := by
  induction ds with
  | nil =>
    rw [bodyFrom_nil]
    exact ⟨c.allMatches_ending, fun first more hmore =>
      allMatches_opened_of_unended hmore c.unended_ending⟩
  | cons d ds ih =>
    obtain ⟨ihnone, ihsome⟩ := ih hsep.tail
    rw [bodyFrom_cons]
    cases hr : d.returned with
    | none =>
      obtain ⟨hunended, hclosed⟩ := unended_declaration hr (c.head?_trimStart_bodyFrom ds)
      constructor
      · rw [allMatches_of_none hr, openings_cons_of_none hr]
        exact ihsome d d.bodyText hclosed
      · intro first more hmore
        rw [Declaration.opened_append, openings_cons_of_none hr]
        exact ihsome first (more ++ d.text) (hmore.append hunended)
    | some r =>
      have hrest := c.isTypeChar_behind hsep (by rw [hr]; rfl)
      constructor
      · rw [allMatches_of_some hr hrest, openings_cons_of_some hr, ihnone]
        rfl
      · intro first more hmore
        rw [allMatches_opened_of_some hr hmore hrest, openings_cons_of_some hr, ihnone]
        rfl

end ClassText

theorem methods_eq_openings (c : ClassText) : (descriptor (String.ofList c.text)).methods =
    (openings none c.declarations).map fun (first, d) => first.methodWith d := by
  show methods (String.ofList c.text).toList = _
  rw [String.toList_ofList, methods, ClassText.text, Header.allMatches_append]
  exact (c.allMatches_bodyFrom c.declarations c.separated).1

theorem methodWith_eq_iff {first d : Declaration} : first.methodWith d = d.methodWith d ↔
    first.name.text = d.name.text ∧
      first.parameters.map WrittenParameter.parameter =
        d.parameters.map WrittenParameter.parameter := by
  simp [Declaration.methodWith, String.ofList_inj]

/-- **What is found in a class**: each declaration with a return type gives a method, and the method has
the name and the parameters of the declaration that opens the match. So what is found is what was
declared if and only if the two agree everywhere, as they do where no declaration without a return type
comes before one with a return type. -/
theorem methods_of_class (c : ClassText) :
    (descriptor (String.ofList c.text)).methods =
      ((openings none c.declarations).map fun (first, d) => first.methodWith d) ∧
    ((descriptor (String.ofList c.text)).methods = c.declared ↔
      ∀ first d, (first, d) ∈ openings none c.declarations →
        first.name.text = d.name.text ∧
          first.parameters.map WrittenParameter.parameter =
            d.parameters.map WrittenParameter.parameter) := by
  have hmethods := methods_eq_openings c
  refine ⟨hmethods, ?_⟩
  rw [hmethods, ClassText.declared, ← map_snd_openings none, List.map_map, List.map_inj_left]
  constructor
  · intro h first d hopening
    exact methodWith_eq_iff.1 (h (first, d) hopening)
  · intro h opening hopening
    exact methodWith_eq_iff.2 (h opening.1 opening.2 hopening)

/-! ## A declaration that is lost -/

/-- A class of two declarations, of which only the second one has a return type. -/
def mixedClass : ClassText where
  header := {
    text := "class C ".toList
    no_function := by
      intro blank _ h
      have hmem : 'f' ∈ "class C ".toList := h.subset List.mem_cons_self
      exact absurd hmem (by decide) }
  declarations := [
    { lead := ⟨"\n    ".toList, by decide⟩
      afterFun := ⟨[' '], by decide⟩
      afterFun_ne := by decide
      name := ⟨['a'], by decide, by decide⟩
      beforeList := ⟨[], by decide⟩
      parameters := []
      returned := none
      body := none },
    { lead := ⟨"\n    ".toList, by decide⟩
      afterFun := ⟨[' '], by decide⟩
      afterFun_ne := by decide
      name := ⟨['b'], by decide, by decide⟩
      beforeList := ⟨[], by decide⟩
      parameters := []
      returned := some ⟨⟨[], by decide⟩, ⟨[' '], by decide⟩, ['R'], by decide, by decide⟩
      body := none }]
  separated := by simp [Declaration.endsInType]
  tail := ⟨['\n'], by decide⟩
  footer := ⟨['\n'], by decide⟩

/-- The second declaration is lost: the first one takes its return type. -/
theorem mixedClass_misread :
    String.ofList mixedClass.text =
      "class C \x7b\n    fun a()\n    fun b(): R\n\x7d\n" ∧
    mixedClass.declared = [{ name := "b", returnType := "R" }] ∧
    (descriptor (String.ofList mixedClass.text)).methods = [{ name := "a", returnType := "R" }] ∧
    (descriptor (String.ofList mixedClass.text)).methods ≠ mixedClass.declared := by
  have hdeclared : mixedClass.declared = [{ name := "b", returnType := "R" }] := rfl
  have hfound : (descriptor (String.ofList mixedClass.text)).methods =
      [{ name := "a", returnType := "R" }] := methods_eq_openings mixedClass
  refine ⟨rfl, hdeclared, hfound, ?_⟩
  rw [hdeclared, hfound]
  decide

end Testsmith.Source
