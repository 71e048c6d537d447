import Testsmith.Envelope
import Testsmith.Proofs.WrittenJson

/-!
# Reading envelopes back

The text of an envelope is read back as the same envelope. Entries without a value are left out of the
text, and the reader gives an absent field the value that it was left out for (`withDefault_option`); a
null inside an analysis or a result is written and stays. `envelope_read_back` is the main statement.

It is about the text and the reader of this library, where every envelope has a text. Writers of the same
layout with bounds of their own are not covered.
-/

namespace Testsmith

open Schema

variable {α : Type} {limit : Option Nat}

/-! ## Entries -/

namespace Json

variable {entries : List (String × Option Json)} {key : String}

theorem keys_written (entries : List (String × Option Json)) :
    ((written entries).map (·.1)).Sublist (entries.map (·.1)) := by
  induction entries with
  | nil => exact .slnil
  | cons entry entries ih =>
    obtain ⟨key, value⟩ := entry
    cases value with
    | none => exact ih.cons key
    | some j => exact ih.cons_cons key

/-- Among entries with different keys one with a value is found under its key, and one without is not. -/
theorem get?_written (hdistinct : (entries.map (·.1)).Nodup) {value : Option Json}
    (hentry : entries.lookup key = some value) : (written entries).get? key = value := by
  induction entries with
  | nil => cases hentry
  | cons entry entries ih =>
    obtain ⟨name, first⟩ := entry
    rw [List.map_cons, List.nodup_cons] at hdistinct
    by_cases hname : key = name
    · subst hname
      rw [List.lookup_cons_self, Option.some.injEq] at hentry
      subst hentry
      cases first with
      | some j => exact List.lookup_cons_self
      | none =>
        have habsent : key ∉ (written entries).map (·.1) :=
          fun hmem => hdistinct.1 ((keys_written entries).subset hmem)
        exact Fields.get?_eq_none habsent
    · have hbeq : (key == name) = false := beq_false_of_ne hname
      rw [List.lookup_cons, hbeq] at hentry
      have hrest := ih hdistinct.2 hentry
      cases first with
      | none => exact hrest
      | some j =>
        show ((name, j) :: written entries).lookup key = value
        rw [List.lookup_cons, hbeq]
        exact hrest

theorem plain_written (hdistinct : (entries.map (·.1)).Nodup)
    (hplain : ∀ entry ∈ entries, ∀ j, entry.2 = some j → Plain limit j) :
    Plain limit (.obj (written entries)) := by
  refine .obj (hdistinct.sublist (keys_written entries)) fun field hfield => ?_
  obtain ⟨entry, hentry, hwritten⟩ := List.mem_filterMap.1 hfield
  obtain ⟨j, hj, rfl⟩ := Option.map_eq_some_iff.1 hwritten
  exact hplain entry hentry j hj

theorem plain_some {j : Json} (h : Plain limit j) : ∀ i, some j = some i → Plain limit i := by
  rintro i ⟨⟩
  exact h

theorem plain_map {value : Option α} {write : α → Json}
    (h : ∀ a, value = some a → Plain limit (write a)) :
    ∀ j, value.map write = some j → Plain limit j := by
  intro j hj
  obtain ⟨a, ha, rfl⟩ := Option.map_eq_some_iff.1 hj
  exact h a ha

theorem plain_text {value : Option String} : ∀ j, value.map .str = some j → Plain limit j :=
  plain_map fun s _ => .str s

end Json

namespace Schema

section Entries

open Json (written)

variable {entries : List (String × Option Json)} {name : String} {read : Reader α} {j : Json}

theorem required_written (hdistinct : (entries.map (·.1)).Nodup) {value : α}
    (hentry : entries.lookup name = some (some j)) (hread : read j = .ok value) :
    required (written entries) name read = .ok value := by
  simp [required, field?, Json.get?_written hdistinct hentry, hread, Checked.under]

/-- An entry that always has a value is read back, whatever stands for an absent one. -/
theorem withDefault_written (hdistinct : (entries.map (·.1)).Nodup) {value : α} (absent : α)
    (hentry : entries.lookup name = some (some j)) (hread : read j = .ok value) :
    withDefault (written entries) name absent read = .ok value := by
  simp [withDefault, field?, Json.get?_written hdistinct hentry, hread, Checked.under]

theorem optional_of_ok {value : α} (hnull : j ≠ .null) (h : read j = .ok value) :
    optional read j = .ok (some value) := by
  rw [optional, h]
  · rfl
  · exact hnull

/-- An entry that may have no value is read back: it is left out where there is none, and otherwise
written as something that is not null. -/
theorem withDefault_option (hdistinct : (entries.map (·.1)).Nodup) {value : Option α}
    {write : α → Json} (hentry : entries.lookup name = some (value.map write))
    (hread : ∀ a, value = some a → write a ≠ .null ∧ read (write a) = .ok a) :
    withDefault (written entries) name none (optional read) = .ok value := by
  cases value with
  | none => simp [withDefault, field?, Json.get?_written hdistinct hentry]
  | some a =>
    obtain ⟨hnull, ha⟩ := hread a rfl
    simp [withDefault, field?, Json.get?_written hdistinct hentry, optional_of_ok hnull ha,
      Checked.under]

theorem withDefault_text (hdistinct : (entries.map (·.1)).Nodup) {value : Option String}
    (hentry : entries.lookup name = some (value.map .str)) :
    withDefault (written entries) name none (optional text) = .ok value :=
  withDefault_option hdistinct hentry fun _ _ => ⟨Json.noConfusion, rfl⟩

end Entries

/-- Items are read back in their order, from every index on. -/
theorem itemsFrom_map {read : Reader α} {write : α → Json} {values : List α}
    (h : ∀ a ∈ values, read (write a) = .ok a) (i : Nat) :
    itemsFrom read i (values.map write) = .ok values := by
  induction values generalizing i with
  | nil => rfl
  | cons a values ih =>
    rw [List.map_cons, itemsFrom, h a List.mem_cons_self,
      ih (fun b hb => h b (List.mem_cons_of_mem a hb))]
    rfl

end Schema

/-! ## Steps and coverage -/

/-- An object without floating point numbers, whose integers have no more digits than a reader
permits. -/
def Json.PlainObject (limit : Option Nat) (j : Json) : Prop :=
  (∃ fields, j = .obj fields) ∧ Json.Plain limit j

theorem Json.PlainObject.read {j : Json} (h : j.PlainObject limit) :
    j ≠ .null ∧ anyObject j = .ok j := by
  obtain ⟨⟨fields, rfl⟩, -⟩ := h
  exact ⟨Json.noConfusion, rfl⟩

/-- A step whose number a reader permits, and whose result is a plain object. -/
structure Step.Plain (limit : Option Nat) (s : Step) : Prop where
  number : Json.Fits limit s.number
  result : ∀ j, s.result = some j → j.PlainObject limit

/-- An envelope whose numbers a reader permits, and whose analysis and results are plain objects. -/
structure Envelope.Plain (limit : Option Nat) (e : Envelope) : Prop where
  durationMs : Json.Fits limit e.durationMs
  analysis : ∀ j, e.analysis = some j → j.PlainObject limit
  steps : ∀ steps, e.steps = some steps → ∀ s ∈ steps, s.Plain limit

namespace Step

variable {s : Step}

theorem distinct_entries (s : Step) : (s.entries.map (·.1)).Nodup := by
  show List.Nodup ["step", "name", "status", "message", "result", "error", "reason"]
  decide

/-- A step is read back from its fields. -/
theorem read_toJson (h : s.Plain limit) : Step.read s.toJson = .ok s := by
  have hd := s.distinct_entries
  have hnumber : required (Json.written s.entries) "step" integer = .ok s.number :=
    required_written hd rfl rfl
  have hname : required (Json.written s.entries) "name" Schema.text = .ok s.name :=
    required_written hd rfl rfl
  have hstatus : withDefault (Json.written s.entries) "status" .inProgress
      (oneOf ([Status.inProgress, .completed, .failed].map fun s => (s.name, s))) = .ok s.status :=
    withDefault_written hd _ rfl (by cases s.status <;> rfl)
  have hmessage : withDefault (Json.written s.entries) "message" "" Schema.text = .ok s.message :=
    withDefault_written hd _ rfl rfl
  have hresult : withDefault (Json.written s.entries) "result" none (optional anyObject) =
      .ok s.result := by
    have hentry : s.entries.lookup "result" = some (s.result.map id) := by
      rw [Option.map_id]
      rfl
    exact withDefault_option hd hentry fun j hj => (h.result j hj).read
  have herror : withDefault (Json.written s.entries) "error" none (optional Schema.text) =
      .ok s.error := withDefault_text hd rfl
  have hreason : withDefault (Json.written s.entries) "reason" none (optional Schema.text) =
      .ok s.reason := withDefault_text hd rfl
  unfold Step.read record toJson
  dsimp only
  rw [hnumber, hname, hstatus, hmessage, hresult, herror, hreason]
  rfl

theorem plain_toJson (h : s.Plain limit) : Json.Plain limit s.toJson := by
  refine Json.plain_written s.distinct_entries ?_
  simp only [entries, List.forall_mem_cons]
  refine ⟨Json.plain_some (.int h.number), Json.plain_some (.str _), Json.plain_some (.str _),
    Json.plain_some (.str _), ?_, Json.plain_text, Json.plain_text,
    List.forall_mem_nil _⟩
  exact fun j hj => (h.result j hj).2

end Step

namespace Coverage

theorem distinct_entries (c : Coverage) : (c.entries.map (·.1)).Nodup := by
  show List.Nodup ["success", "report_path", "error"]
  decide

/-- What became of a report is read back from its fields. -/
theorem read_toJson (c : Coverage) : Coverage.read c.toJson = .ok c := by
  have hd := c.distinct_entries
  have hsuccess : required (Json.written c.entries) "success" boolean = .ok c.success :=
    required_written hd rfl rfl
  have hpath : withDefault (Json.written c.entries) "report_path" none (optional Schema.text) =
      .ok c.reportPath := withDefault_text hd rfl
  have herror : withDefault (Json.written c.entries) "error" none (optional Schema.text) =
      .ok c.error := withDefault_text hd rfl
  unfold Coverage.read record toJson
  dsimp only
  rw [hsuccess, hpath, herror]
  rfl

theorem plain_toJson (c : Coverage) : Json.Plain limit c.toJson := by
  refine Json.plain_written c.distinct_entries ?_
  simp only [entries, List.forall_mem_cons]
  exact ⟨Json.plain_some (.bool _), Json.plain_text, Json.plain_text, List.forall_mem_nil _⟩

end Coverage

/-! ## Envelopes -/

namespace Envelope

variable {e : Envelope}

theorem distinct_entries (e : Envelope) : (e.entries.map (·.1)).Nodup := by
  show List.Nodup ["success", "duration_ms", "message", "service_path", "test_path", "fidelity",
    "standards_loaded", "analysis", "steps", "coverage", "error", "stack"]
  decide

/-- The steps of an envelope are read back in their order. -/
theorem read_steps {steps : List Step} (h : ∀ s ∈ steps, s.Plain limit) :
    Schema.list Step.read (.arr (steps.map Step.toJson)) = .ok steps :=
  itemsFrom_map (fun s hs => Step.read_toJson (h s hs)) 0

/-- An envelope is read back from its fields. -/
theorem read_toJson (h : e.Plain limit) : Envelope.read e.toJson = .ok e := by
  have hd := e.distinct_entries
  have hsuccess : required (Json.written e.entries) "success" boolean = .ok e.success :=
    required_written hd rfl rfl
  have hduration : withDefault (Json.written e.entries) "duration_ms" 0 integer =
      .ok e.durationMs := withDefault_written hd _ rfl rfl
  have hmessage : withDefault (Json.written e.entries) "message" none (optional Schema.text) =
      .ok e.message := withDefault_text hd rfl
  have hservice : withDefault (Json.written e.entries) "service_path" none (optional Schema.text) =
      .ok e.servicePath := withDefault_text hd rfl
  have htest : withDefault (Json.written e.entries) "test_path" none (optional Schema.text) =
      .ok e.testPath := withDefault_text hd rfl
  have hfidelity : withDefault (Json.written e.entries) "fidelity" none
      (optional (oneOf ([Fidelity.structured, .regex].map fun f => (f.name, f)))) =
        .ok e.fidelity :=
    withDefault_option hd rfl fun f _ => ⟨Json.noConfusion, by cases f <;> rfl⟩
  have hstandards : withDefault (Json.written e.entries) "standards_loaded" none
      (optional boolean) = .ok e.standardsLoaded :=
    withDefault_option hd rfl fun _ _ => ⟨Json.noConfusion, rfl⟩
  have hanalysis : withDefault (Json.written e.entries) "analysis" none (optional anyObject) =
      .ok e.analysis := by
    have hentry : e.entries.lookup "analysis" = some (e.analysis.map id) := by
      rw [Option.map_id]
      rfl
    exact withDefault_option hd hentry fun j hj => (h.analysis j hj).read
  have hsteps : withDefault (Json.written e.entries) "steps" none
      (optional (Schema.list Step.read)) = .ok e.steps :=
    withDefault_option hd rfl fun steps hs => ⟨Json.noConfusion, read_steps (h.steps steps hs)⟩
  have hcoverage : withDefault (Json.written e.entries) "coverage" none (optional Coverage.read) =
      .ok e.coverage :=
    withDefault_option hd rfl fun c _ => ⟨Json.noConfusion, c.read_toJson⟩
  have herror : withDefault (Json.written e.entries) "error" none (optional Schema.text) =
      .ok e.error := withDefault_text hd rfl
  have hstack : withDefault (Json.written e.entries) "stack" none (optional Schema.text) =
      .ok e.stack := withDefault_text hd rfl
  unfold Envelope.read record toJson
  dsimp only
  rw [hsuccess, hduration, hmessage, hservice, htest, hfidelity, hstandards, hanalysis, hsteps,
    hcoverage, herror, hstack]
  rfl

theorem plain_toJson (h : e.Plain limit) : Json.Plain limit e.toJson := by
  refine Json.plain_written e.distinct_entries ?_
  simp only [entries, List.forall_mem_cons]
  refine ⟨Json.plain_some (.bool _), Json.plain_some (.int h.durationMs), Json.plain_text,
    Json.plain_text, Json.plain_text, Json.plain_map fun f _ => .str _,
    Json.plain_map fun b _ => .bool b, ?analysis, ?steps,
    Json.plain_map fun c _ => c.plain_toJson, Json.plain_text, Json.plain_text,
    List.forall_mem_nil _⟩
  case analysis => exact fun j hj => (h.analysis j hj).2
  case steps =>
    refine Json.plain_map fun steps hsteps => .arr fun j hj => ?_
    obtain ⟨s, hs, rfl⟩ := List.mem_map.1 hj
    exact Step.plain_toJson (h.steps steps hsteps s hs)

end Envelope

/-- **An envelope is read back from its text**: a reader takes from the text the value that was written,
and that value is read as the envelope. A reader that sets no limit to the digits of integers reads all
of them. -/
theorem envelope_read_back (limit : Option Nat) (e : Envelope) (h : e.Plain limit) :
    Json.parse e.text limit = .ok e.toJson ∧ Envelope.read e.toJson = .ok e :=
  ⟨Json.parse_pretty (Envelope.plain_toJson h), Envelope.read_toJson h⟩

/-- A null inside an analysis is written, and fields without a value are not. -/
example : Envelope.text { success := true, analysis := some (.obj [("package", .null)]) } =
    "\x7b\n  \"success\": true,\n  \"duration_ms\": 0,\n  \"analysis\": \x7b\n    \"package\": null\n  \x7d\n\x7d" := by
  decide +kernel

end Testsmith
