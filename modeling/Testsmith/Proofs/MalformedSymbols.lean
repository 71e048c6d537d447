import Testsmith.Extraction.Basic

/-!
# Malformed symbols

A value that cannot be read as a symbol may stand among the children of any object of the data, at any
depth, and the data are read as if it were not there (`malformed_ignored`). An object that is no symbol
itself may hold such children too, as a symbol of its own or where no symbol is looked for at all.

The insertion is a context around one list (`Inserted`), and the induction is on the context. Its
invariant is that no reader of a symbol can tell the two values apart (`ReadAlike`): not the reader of
symbols alone, as an object may stand where a name, a kind or a list of children is looked for.
-/

namespace Testsmith.Symbol

open Schema

variable {α : Type} {b v w : Json} {name key : String} {pre post : Json.Fields} {xs ys : List Json}

/-- One more item stands among the children of an object inside a value. -/
inductive Inserted (b : Json) : Json → Json → Prop
  | child (pre post : Json.Fields) (xs ys : List Json) :
      Inserted b (.obj (pre ++ ("children", .arr (xs ++ ys)) :: post))
        (.obj (pre ++ ("children", .arr (xs ++ b :: ys)) :: post))
  | field (pre post : Json.Fields) (key : String) {v w : Json} (inside : Inserted b v w) :
      Inserted b (.obj (pre ++ (key, v) :: post)) (.obj (pre ++ (key, w) :: post))
  | item (xs ys : List Json) {v w : Json} (inside : Inserted b v w) :
      Inserted b (.arr (xs ++ v :: ys)) (.arr (xs ++ w :: ys))

/-- No reader of a symbol or of one of its fields tells the values apart. -/
structure ReadAlike (v w : Json) : Prop where
  text : optional Schema.text v = optional Schema.text w
  kind : optional readKind v = optional readKind w
  children : readChildren v = readChildren w
  read : Symbol.read v = Symbol.read w

/-! ## Lists of symbols -/

theorem readEach_append (xs ys : List Json) : readEach (xs ++ ys) = readEach xs ++ readEach ys := by
  induction xs with
  | nil => rfl
  | cons item xs ih =>
    rw [List.cons_append, readEach, readEach, ih]
    cases read item <;> rfl

theorem readEach_malformed {issues : List Issue} (h : read b = .failed issues) (xs ys : List Json) :
    readEach (xs ++ b :: ys) = readEach (xs ++ ys) := by
  have hfront : readEach (b :: ys) = readEach ys := by rw [readEach, h]
  rw [readEach_append, readEach_append, hfront]

/-- Lists are no texts, kinds and symbols, whatever their items are. -/
theorem readAlike_arr (h : readEach xs = readEach ys) : ReadAlike (.arr xs) (.arr ys) where
  text := rfl
  kind := rfl
  children := congrArg Checked.ok h
  read := rfl

theorem ReadAlike.item (h : ReadAlike v w) (xs ys : List Json) :
    ReadAlike (.arr (xs ++ v :: ys)) (.arr (xs ++ w :: ys)) := by
  refine readAlike_arr ?_
  have hrest : readEach (v :: ys) = readEach (w :: ys) := by rw [readEach, readEach, h.read]
  rw [readEach_append, readEach_append, hrest]

/-! ## Fields of a symbol -/

/-- Another value of one field shows under its key, if it shows at all. -/
theorem get?_replaced (pre post : Json.Fields) (key name : String) (v w : Json) :
    Json.Fields.get? (pre ++ (key, v) :: post) name = Json.Fields.get? (pre ++ (key, w) :: post) name ∨
      Json.Fields.get? (pre ++ (key, v) :: post) name = some v ∧
        Json.Fields.get? (pre ++ (key, w) :: post) name = some w := by
  induction pre with
  | nil =>
    by_cases hname : name = key
    · subst hname
      exact .inr ⟨Json.Fields.get?_cons_self post name v, Json.Fields.get?_cons_self post name w⟩
    · left
      rw [List.nil_append, List.nil_append, Json.Fields.get?_cons_of_ne post hname,
        Json.Fields.get?_cons_of_ne post hname]
  | cons first pre ih =>
    obtain ⟨other, j⟩ := first
    rw [List.cons_append, List.cons_append]
    by_cases hname : name = other
    · subst hname
      left
      rw [Json.Fields.get?_cons_self, Json.Fields.get?_cons_self]
    · rwa [Json.Fields.get?_cons_of_ne _ hname, Json.Fields.get?_cons_of_ne _ hname]

theorem withDefault_replaced {read : Reader α} (h : read v = read w) (a : α) :
    withDefault (pre ++ (key, v) :: post) name a read =
      withDefault (pre ++ (key, w) :: post) name a read := by
  unfold withDefault field?
  rcases get?_replaced pre post key name v w with hsame | ⟨hv, hw⟩
  · simp [hsame]
  · simp [hv, hw, h]

theorem readChildrenField_replaced (h : readChildren v = readChildren w) :
    readChildrenField (pre ++ (key, v) :: post) = readChildrenField (pre ++ (key, w) :: post) := by
  rw [readChildrenField_eq, readChildrenField_eq]
  rcases get?_replaced pre post key "children" v w with hsame | ⟨hv, hw⟩
  · rw [hsame]
  · rw [hv, hw, Option.map_some, Option.map_some, h]

/-- Objects are no texts, kinds and lists of children, whatever their fields are. -/
theorem ReadAlike.field (h : ReadAlike v w) (pre post : Json.Fields) (key : String) :
    ReadAlike (.obj (pre ++ (key, v) :: post)) (.obj (pre ++ (key, w) :: post)) where
  text := rfl
  kind := rfl
  children := rfl
  read := by
    rw [Symbol.read, Symbol.read, withDefault_replaced h.text, withDefault_replaced h.kind,
      withDefault_replaced h.text, readChildrenField_replaced h.children]

/-! ## Insertions -/

theorem Inserted.readAlike (hb : ∃ issues, read b = .failed issues) (h : Inserted b v w) :
    ReadAlike v w := by
  induction h with
  | child pre post xs ys =>
    obtain ⟨issues, hb⟩ := hb
    exact (readAlike_arr (readEach_malformed hb xs ys).symm).field pre post "children"
  | field pre post key inside ih => exact ih.field pre post key
  | item xs ys inside ih => exact ih.item xs ys

/-- Data that are read alike stand for one symbol: objects by themselves, and lists as the children of a
symbol. -/
theorem Inserted.ofData_eq (hb : ∃ issues, read b = .failed issues) (h : Inserted b v w) :
    ofData w = ofData v := by
  have hdata {i j : Json} (halike : ReadAlike i j) :
      (read j).toOption.getD blank = (read i).toOption.getD blank := by rw [halike.read]
  have halike := h.readAlike hb
  cases h with
  | child pre post xs ys => exact hdata halike
  | field pre post key inside => exact hdata halike
  | item xs ys inside => exact hdata (halike.field [] [] "children")

end Testsmith.Symbol

open Testsmith.Symbol

namespace Testsmith

theorem Symbol.Inserted.extract_eq {b v w : Json} (hb : ∃ issues, Symbol.read b = .failed issues)
    (h : Inserted b v w) (settings : GenerationSettings) (sourcePath source : String) :
    extract settings sourcePath (some w) source = extract settings sourcePath (some v) source := by
  show ((ofData w).descriptor settings sourcePath, Fidelity.structured) = _
  rw [h.ofData_eq hb]
  rfl

/-- A list of symbols, which is no symbol itself, gives the same descriptor with a malformed symbol
among its items. -/
theorem extract_list_insert {b : Json} (hb : ∃ issues, Symbol.read b = .failed issues)
    (xs ys : List Json) (settings : GenerationSettings) (sourcePath source : String) :
    extract settings sourcePath (some (.arr (xs ++ b :: ys))) source =
      extract settings sourcePath (some (.arr (xs ++ ys))) source :=
  Inserted.extract_eq hb (.child [] [] xs ys) settings sourcePath source

/-- **A malformed symbol does not disturb its neighbours.** With a value that cannot be read as a symbol
among the children of an object, at any depth and place, the data are read as before, or refused as
before, and the same descriptor is extracted from them. -/
theorem malformed_ignored {b v w : Json} (hb : ∃ issues, Symbol.read b = .failed issues)
    (h : Inserted b v w) :
    Symbol.read w = Symbol.read v ∧ ∀ settings sourcePath source,
      extract settings sourcePath (some w) source = extract settings sourcePath (some v) source :=
  ⟨(h.readAlike hb).read.symm, h.extract_eq hb⟩

/-- A symbol whose name is a number; it is malformed with all of its children. -/
def Symbol.numbered : Json :=
  .obj [("name", .int 3), ("children", .arr [.obj [("name", .str "g"), ("kind", .int 6)]])]

/-- A file with a class, and the children of the class. -/
def Symbol.fileOf (members : List Json) : Json :=
  .obj [("name", .str "A.kt"), ("children", .arr [.null,
    .obj [("name", .str "A"), ("kind", .str "Class"), ("children", .arr members)]])]

/-- The malformed symbol is left out behind a method of the class, and the method stays. -/
theorem numbered_ignored :
    Symbol.read (fileOf [.obj [("name", .str "f"), ("kind", .int 12)], numbered]) =
      .ok (.node "A.kt" none none [.node "A" (some (.tag "Class")) none
        [.node "f" (some (.number 12)) none []]]) := by
  have hnumbered : ∃ issues, Symbol.read numbered = .failed issues := ⟨_, rfl⟩
  have hinserted : Inserted numbered (fileOf [.obj [("name", .str "f"), ("kind", .int 12)]])
      (fileOf [.obj [("name", .str "f"), ("kind", .int 12)], numbered]) :=
    .field [("name", .str "A.kt")] [] "children" (.item [.null] []
      (.child [("name", .str "A"), ("kind", .str "Class")] [] [_] []))
  exact (malformed_ignored hnumbered hinserted).1.trans rfl

end Testsmith
