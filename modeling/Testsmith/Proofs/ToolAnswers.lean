import Mathlib.Algebra.Group.Nat.Defs
import Testsmith.Proofs.TestVerdict
import Testsmith.Settings.Defaults

/-!
# Answers of the build tool

When a call of Gradle is answered, and what an answer tells (`call_answered_iff`). Every answer is a
success without an error or a failure with one, however the process ends. But there are two obstacles to
an answer. The bound on a call is an integer of the settings, and from `2^1024 - 2^970` on it is beyond
the doubles (`Binary64.ofInt?_eq_none_iff`), because rounding it to 53 bits carries into an exponent that
doubles do not have. And a count in the output of a test run can have more digits than are converted, as
in `overlongCount_unanswered`.

Both are behind the runner. A runner that fails, because the process could not be started or because its
output is no text, leaves the call without an answer as well.
-/

namespace Testsmith

/-! ## Integers beyond the doubles -/

namespace Binary64

variable {n k d : Nat} {negative : Bool}

/-- The exponent of the unit in which a ratio is rounded to a significand. -/
def unitExponent (n d : Nat) : Int :=
  let guess := max ((n.log2 : Int) - d.log2 - 52) minExponent
  if (inUnits n d guess).1 / (inUnits n d guess).2 < 2 ^ 52 then max (guess - 1) minExponent
  else guess

/-- The significand to which a ratio is rounded; it can have one bit too many, as `2^53`. -/
def significand (n d : Nat) : Nat :=
  roundHalfEven (inUnits n d (unitExponent n d)).1 (inUnits n d (unitExponent n d)).2

/-- A ratio is infinite where the exponent of its significand, which rounding may have raised, is beyond
the greatest one. -/
theorem exists_infinite_iff : (∃ b, ofRatio negative n d = .infinite b) ↔
    maxExponent < if significand n d = 2 ^ 53 then unitExponent n d + 1 else unitExponent n d := by
  have hround : ofRatio negative n d =
      let p := if significand n d = 2 ^ 53 then (2 ^ 52, unitExponent n d + 1)
        else (significand n d, unitExponent n d)
      if maxExponent < p.2 then .infinite negative else .finite negative p.1 p.2 := rfl
  rw [hround]
  by_cases hcarry : significand n d = 2 ^ 53
  · rw [if_pos hcarry, if_pos hcarry]
    dsimp only
    split <;> simp [*]
  · rw [if_neg hcarry, if_neg hcarry]
    dsimp only
    split <;> simp [*]

theorem unitExponent_le (n d : Nat) :
    unitExponent n d ≤ max ((n.log2 : Int) - d.log2 - 52) minExponent := by
  unfold unitExponent
  dsimp only
  split <;> omega

/-- An integer of 53 bits at least is rounded in the unit in which it has 53 bits. -/
theorem unitExponent_of_log2 (h : n.log2 = k + 52) : unitExponent n 1 = k := by
  have hn : n ≠ 0 := by
    rintro rfl
    simp at h
  have hguess : max ((n.log2 : Int) - (Nat.log2 1 : Nat) - 52) minExponent = k := by
    rw [h, show Nat.log2 1 = 0 from rfl, minExponent]
    omega
  have hunits : inUnits n 1 (k : Int) = (n, 2 ^ k) := by simp [inUnits]
  have hlarge : ¬ n / 2 ^ k < 2 ^ 52 := by
    rw [Nat.not_lt, Nat.le_div_iff_mul_le (Nat.two_pow_pos k), ← Nat.pow_add, Nat.add_comm, ← h]
    exact Nat.log2_self_le hn
  unfold unitExponent
  rw [hguess]
  dsimp only
  rw [hunits]
  exact if_neg hlarge

/-- A ratio with an integer part of 53 bits at most is rounded to one bit more where its integer part
is the greatest one, which is odd, and a half at least is left. -/
theorem roundHalfEven_eq_iff (h : n / d < 2 ^ 53) :
    roundHalfEven n d = 2 ^ 53 ↔ n / d = 2 ^ 53 - 1 ∧ d ≤ 2 * (n % d) := by
  unfold roundHalfEven
  generalize n / d = q at h ⊢
  generalize n % d = r
  dsimp only
  split
  · next hdown =>
    simp only [Bool.or_eq_true, Bool.and_eq_true, decide_eq_true_eq, beq_iff_eq] at hdown
    omega
  · next hup =>
    simp only [Bool.or_eq_true, Bool.and_eq_true, decide_eq_true_eq, beq_iff_eq] at hup
    omega

/-- The greatest integer part of 53 bits with a half behind it, in a unit of two halves. -/
theorem top_half_iff {half : Nat} (hn : n < 2 ^ 54 * half) :
    n / (2 * half) = 2 ^ 53 - 1 ∧ 2 * half ≤ 2 * (n % (2 * half)) ↔ 2 ^ 54 * half ≤ n + half := by
  have hsum := Nat.div_add_mod n (2 * half)
  constructor
  · rintro ⟨hq, hr⟩
    rw [hq] at hsum
    omega
  · intro h
    have hq : n / (2 * half) = 2 ^ 53 - 1 :=
      Nat.div_eq_of_lt_le (by omega) (by omega)
    rw [hq] at hsum
    exact ⟨hq, by omega⟩

theorem exists_infinite_of_log2 (h : n.log2 = k + 52) : (∃ b, ofRatio negative n 1 = .infinite b) ↔
    971 < if roundHalfEven n (2 ^ k) = 2 ^ 53 then k + 1 else k := by
  have hunits : inUnits n 1 (k : Int) = (n, 2 ^ k) := by simp [inUnits]
  rw [exists_infinite_iff, significand, unitExponent_of_log2 h, hunits, maxExponent]
  split <;> omega

theorem ofInt?_eq_none_iff_infinite (h : n ≠ 0) :
    ofInt? n = none ↔ ∃ b, ofRatio false n 1 = .infinite b := by
  unfold ofInt?
  rw [if_neg (by omega), show decide ((n : Int) < 0) = false by simp, Int.natAbs_natCast]
  split
  · next b hb => exact iff_of_true rfl ⟨b, hb⟩
  · next hfinite => exact iff_of_false nofun fun ⟨b, hb⟩ => hfinite b hb

/-- **The least integer beyond the doubles** is half a unit below `2^1024`. -/
theorem ofInt?_eq_none_iff (n : Nat) : ofInt? n = none ↔ 2 ^ 1024 ≤ n + 2 ^ 970 := by
  have hdouble (k : Nat) : (2 : Nat) ^ (k + 1) = 2 * 2 ^ k := Nat.pow_succ'
  have hsplit (j k l : Nat) (h : j = k + l) : (2 : Nat) ^ j = 2 ^ k * 2 ^ l := by rw [h, Nat.pow_add]
  have hlimit := hsplit 1024 54 970 rfl
  have hpos (k : Nat) : 0 < (2 : Nat) ^ k := Nat.two_pow_pos k
  have hhalf := hpos 970
  by_cases hn : n = 0
  · subst hn
    refine iff_of_false nofun ?_
    omega
  have hbits (k : Nat) : n.log2 < k ↔ n < 2 ^ k := Nat.log2_lt hn
  rw [ofInt?_eq_none_iff_infinite hn]
  rcases Nat.lt_or_ge n.log2 1023 with hsmall | hlarge
  · refine iff_of_false ?_ ?_
    · have hle := unitExponent_le n 1
      rw [exists_infinite_iff, maxExponent]
      rw [show Nat.log2 1 = 0 from rfl, minExponent] at hle
      split <;> omega
    · have hbelow := (hbits 1023).1 hsmall
      have htwice := hdouble 1023
      omega
  · obtain ⟨k, hk⟩ := Nat.exists_eq_add_of_le' (Nat.le_trans (by decide) hlarge : 52 ≤ n.log2)
    rw [exists_infinite_of_log2 hk]
    rcases Nat.lt_or_eq_of_le (show 970 + 1 ≤ k by omega) with hbeyond | rfl
    · refine iff_of_true (by split <;> omega) ?_
      have habove := mt (hbits 1024).2 (by omega)
      omega
    · have hbelow := (hbits 1024).1 (by omega)
      rw [hlimit] at hbelow ⊢
      rw [hdouble 970]
      clear hlimit hdouble hbits hk hlarge
      generalize (2 : Nat) ^ 970 = half at *
      have hpart : n / (2 * half) < 2 ^ 53 := Nat.div_lt_of_lt_mul (by omega)
      rw [← top_half_iff hbelow, ← roundHalfEven_eq_iff hpart]
      split
      · next htop => exact iff_of_true (by decide) htop
      · next htop => exact iff_of_false (by decide) htop

end Binary64

/-- A process can be started with the bound of the settings where it is a double. -/
theorem ToolSettings.timeout_ok_iff (s : ToolSettings) :
    (∃ timeout, s.timeout = .ok timeout) ↔ s.timeoutSeconds + 2 ^ 970 < 2 ^ 1024 := by
  refine Iff.trans ?_ ((not_congr (Binary64.ofInt?_eq_none_iff s.timeoutSeconds)).trans Nat.not_le)
  unfold timeout
  split
  · next hzero =>
    rw [hzero]
    exact iff_of_true ⟨none, rfl⟩ nofun
  · split
    · next seconds hseconds => exact iff_of_true ⟨some seconds, rfl⟩ (by rw [hseconds]; nofun)
    · next hnone => exact iff_of_false nofun fun h => h hnone

/-! ## What a result tells -/

/-- A result tells of a success, without an error, or of a failure with an error that is not empty. -/
structure ToolResult.Tells (r : ToolResult) : Prop where
  error_eq_none : r.success = true → r.error = none
  exists_error : r.success = false → ∃ error, r.error = some error ∧ error ≠ ""

theorem ToolResult.tells_of_isNone {r : ToolResult} (hsuccess : r.success = r.error.isNone)
    (hne : ∀ error, r.error = some error → error ≠ "") : r.Tells where
  error_eq_none h := Option.isNone_iff_eq_none.1 (hsuccess ▸ h)
  exists_error h := by
    obtain ⟨error, herror⟩ := Option.isSome_iff_exists.1 (Option.isNone_eq_false_iff.1 (hsuccess ▸ h))
    exact ⟨error, herror, hne error herror⟩

namespace Gradle

open Counts

variable {module testFile testClass stdout stderr : String} {code : Int} {c : Call} {ended : ProcessEnd}
  {r : ToolResult}

theorem failureLabel_ne (c : Call) : failureLabel c ≠ "" := by
  cases c <;> simp [failureLabel]

theorem label_append_ne (c : Call) (text : String) : failureLabel c ++ text ≠ "" :=
  fun h => failureLabel_ne c (String.append_eq_empty_iff.1 h).1

theorem timeoutError_ne (after : String) (c : Call) : timeoutError after c ≠ "" := by
  cases c with
  | compile | run => exact label_append_ne _ _
  | coverage module => exact fun h => absurd (String.append_eq_empty_iff.1 h).2 (by decide)

theorem compileResult_tells : (compileResult module testFile code stdout stderr).Tells := by
  unfold compileResult
  split
  · exact ToolResult.tells_of_isNone rfl fun _ h => Option.some.inj h ▸ label_append_ne _ _
  · exact ToolResult.tells_of_isNone rfl nofun

theorem coverageResult_tells : (coverageResult module code stdout stderr).Tells := by
  unfold coverageResult
  split
  · exact ToolResult.tells_of_isNone rfl fun _ h => Option.some.inj h ▸ label_append_ne _ _
  · exact ToolResult.tells_of_isNone rfl nofun

theorem runResult_tells (h : runResult module testClass code stdout stderr = .ok r) : r.Tells := by
  unfold runResult at h
  cases hcounts : ofOutput stdout with
  | error failure =>
    rw [hcounts] at h
    cases h
  | ok counts =>
    rw [hcounts] at h
    cases h
    refine ToolResult.tells_of_isNone rfl fun error herror => ?_
    dsimp only at herror
    split at herror
    · cases herror
      exact label_append_ne _ _
    · split at herror
      · cases herror
        exact label_append_ne _ _
      · cases herror

theorem result_tells (h : result c ended = .ok r) : r.Tells := by
  cases ended with
  | timedOut after =>
    cases h
    exact ToolResult.tells_of_isNone rfl fun _ herror => Option.some.inj herror ▸ timeoutError_ne after c
  | exited code stdout stderr =>
    cases c with
    | compile module testFile =>
      cases h
      exact compileResult_tells
    | run module testClass => exact runResult_tells h
    | coverage module =>
      cases h
      exact coverageResult_tells

/-! ## When there is a result -/

/-- The counts that the output of a test run announces first can be read. -/
structure CountsReadable (output : String) : Prop where
  passed : ∀ a : Announcement "passed" output.toList, a.IsFirst → a.IsReadable
  failed : ∀ a : Announcement "failed" output.toList, a.IsFirst → a.IsReadable

/-- A process ends so that a call has a result: only the output of a test run is read for more than the
words in it. -/
def Answerable : Call → ProcessEnd → Prop
  | .run .., .exited _ stdout _ => CountsReadable (stdout.getD "")
  | _, _ => True

theorem count_ok_iff (word output : String) : (∃ n, count word output = .ok n) ↔
    ∀ a : Announcement word output.toList, a.IsFirst → a.IsReadable := by
  have h := exists_count_iff word output (P := fun _ => True) trivial
  simpa only [and_true] using h

theorem runResult_ok_iff : (∃ r, runResult module testClass code stdout stderr = .ok r) ↔
    CountsReadable stdout := by
  have hcounts : (∃ r, runResult module testClass code stdout stderr = .ok r) ↔
      (∃ n, count "passed" stdout = .ok n) ∧ ∃ n, count "failed" stdout = .ok n := by
    unfold runResult ofOutput
    cases count "passed" stdout with
    | error failure => exact iff_of_false nofun fun h => nomatch h.1
    | ok passed =>
      cases count "failed" stdout with
      | error failure => exact iff_of_false nofun fun h => nomatch h.2
      | ok failed => exact iff_of_true ⟨_, rfl⟩ ⟨⟨passed, rfl⟩, failed, rfl⟩
  rw [hcounts, count_ok_iff, count_ok_iff]
  exact ⟨fun h => ⟨h.1, h.2⟩, fun h => ⟨h.passed, h.failed⟩⟩

theorem result_ok_iff : (∃ r, result c ended = .ok r) ↔ Answerable c ended := by
  cases ended with
  | timedOut after => cases c <;> exact iff_of_true ⟨_, rfl⟩ trivial
  | exited code stdout stderr =>
    cases c with
    | compile | coverage => exact iff_of_true ⟨_, rfl⟩ trivial
    | run module testClass => exact runResult_ok_iff

theorem invocation_ok_iff (s : ToolSettings) (root : Path) (c : Call) :
    (∃ i, invocation s root c = .ok i) ↔ s.timeoutSeconds + 2 ^ 970 < 2 ^ 1024 := by
  refine Iff.trans ?_ s.timeout_ok_iff
  unfold invocation
  cases s.timeout with
  | error _ => exact iff_of_false nofun nofun
  | ok timeout => exact iff_of_true ⟨_, rfl⟩ ⟨timeout, rfl⟩

theorem call_eq_ok_iff {σ : Type} {runner : ProcessRunner σ} {root : Path} {s : ToolSettings}
    {state : σ} {files : FileTree} : ((tool runner root s).call c state files).1 = .ok r ↔
      ∃ i ended, invocation s root c = .ok i ∧ (runner.start i state files).1 = .ok ended ∧
        result c ended = .ok r := by
  rw [call_fst]
  cases invocation s root c with
  | error failure => simp [Except.bind]
  | ok i =>
    cases hended : (runner.start i state files).1 with
    | error failure => simp [Except.bind, hended]
    | ok ended => simp [Except.bind, hended]

/-- A run breaks down where the number of passed tests cannot be read. -/
theorem run_eq_error_of_count {σ : Type} {runner : ProcessRunner σ} {root : Path} {s : ToolSettings}
    {state : σ} {files : FileTree} {i : Invocation} {output : String} {errors : Option String}
    {failure : Failure} (hi : invocation s root (.run module testClass) = .ok i)
    (hended : (runner.start i state files).1 = .ok (.exited code (some output) errors))
    (hcount : count "passed" output = .error failure) :
    ((tool runner root s).call (.run module testClass) state files).1 = .error failure := by
  rw [call_fst, hi]
  change (runner.start i state files).1.bind (result (.run module testClass)) = .error failure
  rw [hended]
  change runResult module testClass code output (errors.getD "") = .error failure
  unfold runResult ofOutput
  rw [hcount]
  rfl

/-- **Failures of the build tool are results**: whatever a call answers tells of a success, without an
error, or of a failure with one. A call is answered if and only if its bound in seconds is a double, the
process could be started, its output could be decoded and, for a test run that was not stopped, the counts
that the output announces first can be read. -/
theorem call_answered_iff {σ : Type} (runner : ProcessRunner σ) (root : Path) (s : ToolSettings)
    (c : Call) (state : σ) (files : FileTree) :
    (∀ r, ((tool runner root s).call c state files).1 = .ok r → r.Tells) ∧
    ((∃ r, ((tool runner root s).call c state files).1 = .ok r) ↔
      s.timeoutSeconds + 2 ^ 970 < 2 ^ 1024 ∧
        ∃ i ended, invocation s root c = .ok i ∧ (runner.start i state files).1 = .ok ended ∧
          Answerable c ended) := by
  constructor
  · intro r h
    obtain ⟨i, ended, -, -, hresult⟩ := call_eq_ok_iff.1 h
    exact result_tells hresult
  · constructor
    · rintro ⟨r, h⟩
      obtain ⟨i, ended, hi, hended, hresult⟩ := call_eq_ok_iff.1 h
      exact ⟨(invocation_ok_iff s root c).1 ⟨i, hi⟩, i, ended, hi, hended, result_ok_iff.1 ⟨r, hresult⟩⟩
    · rintro ⟨-, i, ended, hi, hended, hanswerable⟩
      obtain ⟨r, hresult⟩ := result_ok_iff.2 hanswerable
      exact ⟨r, call_eq_ok_iff.2 ⟨i, ended, hi, hended, hresult⟩⟩

/-- The number one, behind zeros. -/
def paddedOne (zeros : Nat) : List Char := List.replicate zeros '0' ++ ['1']

/-- The summary of a run with two tests, one of which fails. -/
def paddedSummary (zeros : Nat) : String :=
  String.ofList (paddedOne zeros ++ " passed, 1 failed\n".toList)

theorem count_paddedSummary (zeros : Nat) :
    count "passed" (paddedSummary zeros) = valueOf (paddedOne zeros) := by
  have hread : numberBefore "passed" none (paddedSummary zeros).toList =
      some (paddedOne zeros, (paddedOne zeros).length) := by
    refine numberBefore_eq_some_iff.2
      ⟨"passed, 1 failed\n".toList, by simp [paddedSummary], by simp [paddedOne], ?_, by decide, rfl⟩
    intro c hc
    rcases List.mem_append.1 hc with hzero | hone
    · rw [List.eq_of_mem_replicate hzero]
      decide
    · rw [List.mem_singleton.1 hone]
      decide
  unfold count
  rw [Text.match?, Text.matchFrom?_of_some hread]

theorem valueOf_paddedOne : valueOf (paddedOne Numeral.maxDigits) =
    .error (.tooManyDigits (Numeral.maxDigits + 1)) := by
  have hlength (zeros : Nat) : (paddedOne zeros).length = zeros + 1 := by simp [paddedOne]
  unfold valueOf
  rw [hlength, if_pos (Nat.lt_succ_self _)]

/-- The failure of a run is not a result where one of the counts has one digit too many. -/
theorem overlongCount_unanswered :
    ((tool ⟨fun _ state files =>
        (.ok (.exited 1 (some (paddedSummary Numeral.maxDigits)) none), state, files)⟩
      (Path.ofText ".") Settings.default.tool).call (.run "app" "FooTest") () default).1 =
        .error (.tooManyDigits (Numeral.maxDigits + 1)) :=
  run_eq_error_of_count rfl rfl ((count_paddedSummary _).trans valueOf_paddedOne)

end Gradle
end Testsmith
