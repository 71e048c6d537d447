import Testsmith.Number.Binary64

/-!
# JSON values

Values as JSON texts and settings files give them. Integers are unbounded and kept apart from
floating point numbers, and the fields of an object keep their order. A reader gives objects without
repeated keys; looking a key up finds its first field.
-/

namespace Testsmith

inductive Json where
  | null
  | bool (value : Bool)
  | int (value : Int)
  | float (value : Binary64)
  | str (value : String)
  | arr (items : List Json)
  | obj (fields : List (String × Json))
  deriving Repr, Inhabited

namespace Json

/-- The fields of an object, in order. -/
abbrev Fields := List (String × Json)

/-- The value of the first field with a key. -/
def Fields.get? (fields : Fields) (key : String) : Option Json := fields.lookup key

/-- Sets a field: in place where the key is present, else behind the others. -/
def Fields.set : Fields → String → Json → Fields
  | [], key, value => [(key, value)]
  | field :: rest, key, value =>
    if field.1 = key then (key, value) :: rest else field :: Fields.set rest key value

/-- Sets the fields of `new` one after the other. -/
def Fields.update (fields new : Fields) : Fields :=
  new.foldl (fun acc field => acc.set field.1 field.2) fields

theorem Fields.get?_set_self (fields : Fields) (key : String) (value : Json) :
    (fields.set key value).get? key = some value := by
  induction fields with
  | nil => simp [set, get?]
  | cons field rest ih =>
    obtain ⟨name, old⟩ := field
    by_cases h : name = key
    · simp [set, get?, h]
    · have hb : (key == name) = false := by simp [Ne.symm h]
      simpa [set, get?, h, List.lookup_cons, hb] using ih

theorem Fields.get?_set_of_ne (fields : Fields) {key other : String} (h : other ≠ key)
    (value : Json) : (fields.set key value).get? other = fields.get? other := by
  have hk : (other == key) = false := by simp [h]
  induction fields with
  | nil => simp [set, get?, List.lookup_cons, hk]
  | cons field rest ih =>
    obtain ⟨name, old⟩ := field
    by_cases hn : name = key
    · subst hn
      simp [set, get?, List.lookup_cons, hk]
    · cases ho : other == name with
      | true => simp [set, get?, hn, List.lookup_cons, ho]
      | false => simpa [set, get?, hn, List.lookup_cons, ho] using ih

theorem Fields.get?_cons_self (fields : Fields) (key : String) (value : Json) :
    Fields.get? ((key, value) :: fields) key = some value :=
  List.lookup_cons_self

theorem Fields.get?_cons_of_ne (fields : Fields) {key name : String} (h : key ≠ name) (value : Json) :
    Fields.get? ((name, value) :: fields) key = fields.get? key := by
  show List.lookup key ((name, value) :: fields) = _
  rw [List.lookup_cons, beq_false_of_ne h]
  rfl

theorem Fields.get?_eq_none {fields : Fields} {key : String} (h : key ∉ fields.map (·.1)) :
    fields.get? key = none := by
  refine List.lookup_eq_none_iff.2 fun field hfield => bne_iff_ne.2 ?_
  rintro rfl
  exact h (List.mem_map_of_mem hfield)

/-- New fields with distinct keys go before the old ones. -/
theorem Fields.get?_update (fields : Fields) {new : Fields} (h : (new.map (·.1)).Nodup)
    (key : String) :
    (fields.update new).get? key = (Fields.get? new key).or (fields.get? key) := by
  induction new generalizing fields with
  | nil => rfl
  | cons field new ih =>
    obtain ⟨name, value⟩ := field
    rw [List.map_cons, List.nodup_cons] at h
    have hrest : (update fields ((name, value) :: new)).get? key =
        (Fields.get? new key).or ((fields.set name value).get? key) := ih _ h.2
    by_cases hname : key = name
    · subst hname
      rw [hrest, get?_eq_none h.1, get?_set_self, get?_cons_self]
      rfl
    · rw [hrest, get?_set_of_ne fields hname, get?_cons_of_ne new hname]

def ofTexts (texts : List String) : Json := .arr (texts.map .str)

def ofOption : Option String → Json
  | some s => .str s
  | none => .null

end Json

end Testsmith
