import Testsmith.BuildTool.Gradle
import Testsmith.Proofs.Scanning

/-!
# The verdict on a test run

When a test run counts as successful. An output can announce numbers of failed tests in many places,
one for each module or suite, and an `Announcement` is one of these places. Only the first one is read
(`count_cases`), and on it the verdict rests (`test_run_verdict`): a failure that is announced later is
never looked at (`laterFailure_accepted`).
-/

namespace Testsmith.Counts

open Text

/-! ## Announcements -/

/-- A decimal number of a text, with a space and a word behind it in any case. The number is whole: no
digit stands in front of it. -/
structure Announcement (word : String) (text : List Char) where
  before : List Char
  digits : List Char
  after : List Char
  text_eq : text = before ++ (digits ++ ' ' :: after)
  digits_ne : digits ≠ []
  decimal : ∀ c ∈ digits, isDecimal c = true
  whole : ∀ c, before.getLast? = some c → isDecimal c = false
  spelled : spells word.toList after = true

namespace Announcement

variable {word : String} {text : List Char}

/-- The number that is announced. -/
def number (a : Announcement word text) : Nat := Numeral.ofDigits (a.digits.filterMap digitValue?)

/-- The number has no more digits than can be converted. -/
def IsReadable (a : Announcement word text) : Prop := a.digits.length ≤ Numeral.maxDigits

/-- No other announcement of the word stands in front of this one. -/
def IsFirst (a : Announcement word text) : Prop :=
  ∀ b : Announcement word text, a.before.length ≤ b.before.length

end Announcement

/-! ## Reading a count -/

section Count

variable {word output : String} {text digits : List Char} {width : Nat}

theorem numberBefore_eq_some_iff {place : Option Char} :
    numberBefore word place text = some (digits, width) ↔
      ∃ after, text = digits ++ ' ' :: after ∧ digits ≠ [] ∧ (∀ c ∈ digits, isDecimal c = true) ∧
        spells word.toList after = true ∧ width = digits.length := by
  unfold numberBefore
  constructor
  · intro h
    split at h
    · next run after hspan =>
      split at h
      · next hspelled =>
        cases h
        obtain ⟨hne, hdecimal⟩ := forall_of_span1? hspan
        exact ⟨after, (span1?_append hspan).symm, hne, hdecimal, hspelled, rfl⟩
      · cases h
    · cases h
  · rintro ⟨after, rfl, hne, hdecimal, hspelled, rfl⟩
    have hspace : ∀ c, (' ' :: after).head? = some c → isDecimal c = false := by
      rintro c ⟨⟩
      decide
    rw [span1?_append_of_stop hdecimal hne hspace]
    exact if_pos hspelled

/-- The number of an announcement is read at its place. -/
theorem Announcement.numberBefore_eq (a : Announcement word text) (place : Option Char) :
    numberBefore word place (a.digits ++ ' ' :: a.after) = some (a.digits, a.digits.length) :=
  numberBefore_eq_some_iff.2 ⟨a.after, rfl, a.digits_ne, a.decimal, a.spelled, rfl⟩

/-- Where a number is read and none in front of it, it is whole, because a digit in front of it would
begin a number that is read. -/
theorem exists_isFirst_of_match? (h : match? (numberBefore word) text = some digits) :
    ∃ a : Announcement word text, a.digits = digits ∧ a.IsFirst := by
  obtain ⟨before, rest, width, htext, hplace, hfront⟩ := exists_of_match? h
  obtain ⟨after, rfl, hne, hdecimal, hspelled, rfl⟩ := numberBefore_eq_some_iff.1 hplace
  have hwhole : ∀ c, before.getLast? = some c → isDecimal c = false := by
    intro c hc
    obtain ⟨front, rfl⟩ := List.getLast?_eq_some_iff.1 hc
    cases hdigit : isDecimal c with
    | false => rfl
    | true =>
      have hlonger : numberBefore word front.getLast? ([c] ++ (digits ++ ' ' :: after)) =
          some (c :: digits, digits.length + 1) :=
        numberBefore_eq_some_iff.2 ⟨after, rfl, List.cons_ne_nil c digits,
          List.forall_mem_cons.2 ⟨hdigit, hdecimal⟩, hspelled, rfl⟩
      rw [hfront front [c] rfl (List.cons_ne_nil c [])] at hlonger
      cases hlonger
  refine ⟨⟨before, digits, after, htext, hne, hdecimal, hwhole, hspelled⟩, rfl, fun b => ?_⟩
  have hsame := htext.symm.trans b.text_eq
  rcases List.append_eq_append_iff.1 hsame with ⟨v, hbefore, -⟩ | ⟨v, hbefore, hrest⟩
  · rw [hbefore, List.length_append]
    exact Nat.le_add_right ..
  · cases v with
    | nil => simp [hbefore]
    | cons c v =>
      have hnone := hfront b.before (c :: v) hbefore (List.cons_ne_nil c v)
      rw [← hrest, b.numberBefore_eq] at hnone
      cases hnone

/-- Two first announcements are of the same number. -/
theorem Announcement.IsFirst.digits_eq {a b : Announcement word text} (ha : a.IsFirst)
    (hb : b.IsFirst) : a.digits = b.digits := by
  have hlength := Nat.le_antisymm (ha b) (hb a)
  have hrest := (List.append_inj (a.text_eq.symm.trans b.text_eq) hlength).2
  have hplace := a.numberBefore_eq none
  rw [hrest, b.numberBefore_eq] at hplace
  exact (congrArg Prod.fst (Option.some.inj hplace)).symm

/-- The first announcement is the one that counts; without any the count is zero. -/
theorem count_cases (word output : String) :
    (∃ a : Announcement word output.toList, a.IsFirst ∧ count word output = valueOf a.digits) ∨
      ((∀ _ : Announcement word output.toList, False) ∧ count word output = .ok 0) := by
  unfold count
  cases h : match? (numberBefore word) output.toList with
  | some digits =>
    obtain ⟨a, rfl, ha⟩ := exists_isFirst_of_match? h
    exact .inl ⟨a, ha, rfl⟩
  | none =>
    refine .inr ⟨fun a => ?_, rfl⟩
    have hnone := eq_none_of_matchFrom? (a.text_eq ▸ h)
    rw [a.numberBefore_eq] at hnone
    cases hnone

theorem valueOf_eq_ok_iff {n : Nat} (a : Announcement word text) :
    valueOf a.digits = .ok n ↔ a.IsReadable ∧ a.number = n := by
  unfold valueOf Announcement.IsReadable Announcement.number
  split
  · next hlong => simp [Nat.not_le.2 hlong]
  · next hshort => simp [Nat.le_of_not_lt hshort]

/-- A count that can be read and is as wanted is the number that is announced first. -/
theorem exists_count_iff (word output : String) {P : Nat → Prop} (hzero : P 0) :
    (∃ n, count word output = .ok n ∧ P n) ↔
      ∀ a : Announcement word output.toList, a.IsFirst → a.IsReadable ∧ P a.number := by
  rcases count_cases word output with ⟨a, ha, hcount⟩ | ⟨hempty, hcount⟩
  · rw [hcount]
    constructor
    · rintro ⟨n, hn, hP⟩ b hb
      rw [ha.digits_eq hb] at hn
      obtain ⟨hreadable, rfl⟩ := (valueOf_eq_ok_iff b).1 hn
      exact ⟨hreadable, hP⟩
    · intro h
      obtain ⟨hreadable, hP⟩ := h a ha
      exact ⟨a.number, (valueOf_eq_ok_iff a).2 ⟨hreadable, rfl⟩, hP⟩
  · rw [hcount]
    exact ⟨fun _ a => (hempty a).elim, fun _ => ⟨0, rfl, hzero⟩⟩

end Count

end Testsmith.Counts

namespace Testsmith.Gradle

open Counts

/-! ## Verdicts -/

/-- The verdict of a test run is success. -/
def Accepts (verdict : Except Failure ToolResult) : Prop :=
  ∃ r, verdict = .ok r ∧ r.success = true

theorem accepts_ok {r : ToolResult} : Accepts (.ok r) ↔ r.success = true := by
  simp [Accepts]

theorem not_accepts_error {failure : Failure} : ¬ Accepts (.error failure) := by
  simp [Accepts]

theorem accepts_bind_iff {α : Type} {x : Except Failure α} {f : α → Except Failure ToolResult} :
    Accepts (x.bind f) ↔ ∃ value, x = .ok value ∧ Accepts (f value) := by
  cases x with
  | error failure => simp [Except.bind, not_accepts_error]
  | ok value => simp [Except.bind]

/-- A process that has ended is accepted where it ends without an error, both counts can be read, and
no test is counted as failed. -/
theorem accepts_runResult_iff {module testClass : String} {code : Int} {stdout stderr : String} :
    Accepts (runResult module testClass code stdout stderr) ↔
      code = 0 ∧ (∃ n, count "passed" stdout = .ok n) ∧ count "failed" stdout = .ok 0 := by
  unfold runResult ofOutput
  cases count "passed" stdout with
  | error failure => simp [bind, Except.bind, not_accepts_error]
  | ok passed =>
    cases count "failed" stdout with
    | error failure => simp [bind, Except.bind, not_accepts_error]
    | ok failed =>
      simp only [bind, Except.bind, pure, Except.pure, accepts_ok, Except.ok.injEq]
      by_cases hcode : code = 0 <;> by_cases hfailed : 0 < failed <;>
        simp [hcode, hfailed] <;> omega

/-- How a process ends that is taken for a successful test run. -/
structure EndsWell (code : Int) (output : String) : Prop where
  code_eq : code = 0
  passed_readable : ∀ a : Announcement "passed" output.toList, a.IsFirst → a.IsReadable
  failed_readable : ∀ a : Announcement "failed" output.toList, a.IsFirst → a.IsReadable
  none_failed : ∀ a : Announcement "failed" output.toList, a.IsFirst → a.number = 0

theorem accepts_runResult_iff_endsWell {module testClass : String} {code : Int}
    {stdout stderr : String} :
    Accepts (runResult module testClass code stdout stderr) ↔ EndsWell code stdout := by
  have hpassed := exists_count_iff "passed" stdout (P := fun _ => True) trivial
  have hfailed := exists_count_iff "failed" stdout (P := (· = 0)) rfl
  simp only [and_true] at hpassed
  simp only [exists_eq_right] at hfailed
  rw [accepts_runResult_iff, hpassed, hfailed]
  constructor
  · rintro ⟨hcode, hreadable, hzero⟩
    exact ⟨hcode, hreadable, fun a ha => (hzero a ha).1, fun a ha => (hzero a ha).2⟩
  · rintro ⟨hcode, hreadable, hfailedReadable, hzero⟩
    exact ⟨hcode, hreadable, fun a ha => ⟨hfailedReadable a ha, hzero a ha⟩⟩

theorem accepts_result_iff {module testClass : String} {ended : ProcessEnd} :
    Accepts (result (.run module testClass) ended) ↔
      ∃ code stdout stderr, ended = .exited code stdout stderr ∧ EndsWell code (stdout.getD "") := by
  cases ended with
  | timedOut after => simp [result, accepts_ok]
  | exited code stdout stderr =>
    refine accepts_runResult_iff_endsWell.trans ⟨fun h => ⟨code, stdout, stderr, rfl, h⟩, ?_⟩
    rintro ⟨_, _, _, ⟨⟩, h⟩
    exact h

/-- The answer of a call, without the state and the files that it leaves. -/
theorem call_fst {σ : Type} (runner : ProcessRunner σ) (root : Path) (s : ToolSettings) (c : Call)
    (state : σ) (files : FileTree) :
    ((tool runner root s).call c state files).1 =
      (invocation s root c).bind fun i => (runner.start i state files).1.bind (result c) := by
  dsimp only [tool]
  cases invocation s root c <;> rfl

/-- A failure that is announced in a successful run stands behind an announcement of zero. -/
theorem EndsWell.exists_zero_before {code : Int} {output : String} (h : EndsWell code output)
    (a : Announcement "failed" output.toList) (ha : a.number ≠ 0) :
    ∃ b : Announcement "failed" output.toList,
      b.before.length < a.before.length ∧ b.number = 0 := by
  obtain ⟨b, hb, hcount⟩ | ⟨hempty, -⟩ := count_cases "failed" output
  · have hzero := h.none_failed b hb
    refine ⟨b, Nat.lt_of_le_of_ne (hb a) fun hlength => ?_, hzero⟩
    -- An announcement at the place of the first one would be the first one.
    have hfirst : a.IsFirst := fun c => hlength ▸ hb c
    exact ha (h.none_failed a hfirst)
  · exact (hempty a).elim

/-- **The verdict on a test run**: a run is a success if and only if its process has ended with code
zero, the counts that its output announces first can be read, and zero is announced first of the failed
tests. So a failure that is announced is overlooked only behind an announcement of zero. -/
theorem test_run_verdict {σ : Type} (runner : ProcessRunner σ) (root : Path) (s : ToolSettings)
    (module testClass : String) (state : σ) (files : FileTree) :
    (Accepts ((tool runner root s).call (.run module testClass) state files).1 ↔
      ∃ i code stdout stderr, invocation s root (.run module testClass) = .ok i ∧
        (runner.start i state files).1 = .ok (.exited code stdout stderr) ∧
        EndsWell code (stdout.getD "")) ∧
    (Accepts ((tool runner root s).call (.run module testClass) state files).1 →
      ∃ i code stdout stderr, (runner.start i state files).1 = .ok (.exited code stdout stderr) ∧
        code = 0 ∧ ∀ a : Announcement "failed" (stdout.getD "").toList, a.number ≠ 0 →
          ∃ b : Announcement "failed" (stdout.getD "").toList,
            b.before.length < a.before.length ∧ b.number = 0) := by
  have hiff : Accepts ((tool runner root s).call (.run module testClass) state files).1 ↔
      ∃ i code stdout stderr, invocation s root (.run module testClass) = .ok i ∧
        (runner.start i state files).1 = .ok (.exited code stdout stderr) ∧
        EndsWell code (stdout.getD "") := by
    rw [call_fst, accepts_bind_iff]
    simp only [accepts_bind_iff, accepts_result_iff]
    constructor
    · rintro ⟨i, hi, ended, hstart, code, stdout, stderr, rfl, hends⟩
      exact ⟨i, code, stdout, stderr, hi, hstart, hends⟩
    · rintro ⟨i, code, stdout, stderr, hi, hstart, hends⟩
      exact ⟨i, hi, _, hstart, code, stdout, stderr, rfl, hends⟩
  refine ⟨hiff, fun h => ?_⟩
  obtain ⟨i, code, stdout, stderr, -, hstart, hends⟩ := hiff.1 h
  exact ⟨i, code, stdout, stderr, hstart, hends.code_eq, hends.exists_zero_before⟩

/-- The summaries of two modules, of which the second one has a failed test. -/
def twoSummaries : String := "2 passed, 0 failed\n1 passed, 1 failed\n"

/-- The failed test of the second module is overlooked. -/
theorem laterFailure_accepted :
    Accepts (runResult "app" "FooTest" 0 twoSummaries "") ∧
      ∃ a : Announcement "failed" twoSummaries.toList, a.number = 1 := by
  constructor
  · refine ⟨_, rfl, ?_⟩
    decide
  · exact ⟨⟨"2 passed, 0 failed\n1 passed, ".toList, ['1'], "failed\n".toList, by decide, by decide,
      by decide, by rintro c ⟨⟩; decide, by decide⟩, by decide⟩

end Testsmith.Gradle
