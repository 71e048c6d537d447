import Testsmith.Proofs.Frames

/-!
# Larger budgets

A loop sees its budget in one place only: where a failed attempt was the last one that is permitted. So
with more attempts it does the same from the same session on, until the smaller budget is used up, and
there it goes on. This is stated of any two actions (`Action.Outlasts`): the longer one comes to the same
as the shorter one, or the shorter one has stopped with a value of a certain kind, and the journal of the
longer one goes on from there. `larger_budget_goes_on` is the main statement.
-/

namespace Testsmith

variable {σ α β : Type}

open Testsmith.Action Session

/-! ## Actions that go on -/

/-- From a session, an action comes to the same as another one, or that one has stopped with a value of
a kind, and the journal of the first one goes on from there. -/
inductive Action.Outlasts (long short : Action σ α) (stop : α → Prop) (s : Session σ) : Prop
  | same (h : long s = short s)
  | goesOn {a : α} {t : Session σ} (h : short s = .ok a t) (stopped : stop a)
      (further : t.journal <+: (long.leaves s).journal)

namespace Action

section Outlasts

variable {x y : Action σ α} {f g : α → Action σ β} {stop : α → Prop} {stop' : β → Prop}
  {s : Session σ}

/-- Behind the same beginning one action outlasts another one where its rest does. -/
theorem outlasts_bind (h : ∀ a t, x s = .ok a t → (g a).Outlasts (f a) stop' t) :
    (x >>= g).Outlasts (x >>= f) stop' s := by
  cases hx : x s with
  | error failure t => exact .same (by rw [bind_of_error hx, bind_of_error hx])
  | ok a t =>
    cases h a t hx with
    | same heq => exact .same (by rw [bind_of_ok hx, bind_of_ok hx, heq])
    | goesOn hf hstop hfurther =>
      refine .goesOn (by rw [bind_of_ok hx, hf]) hstop ?_
      rwa [leaves_bind_of_ok hx]

/-- Where the beginning of one action outlasts that of another one, its rest must do so behind the same
value, and behind a value that stops the shorter one there must be nothing left to note. -/
theorem Outlasts.bind (hx : y.Outlasts x stop s)
    (hsame : ∀ a t, x s = .ok a t → (g a).Outlasts (f a) stop' t)
    (hstop : ∀ a t, x s = .ok a t → stop a →
      ∃ b u, f a t = .ok b u ∧ stop' b ∧ u.journal = t.journal)
    (hgrows : ∀ a, (g a).Grows) : (y >>= g).Outlasts (x >>= f) stop' s := by
  cases hx with
  | same heq =>
    cases h : x s with
    | error failure t =>
      exact .same (by rw [bind_of_error (heq.trans h), bind_of_error h])
    | ok a t =>
      cases hsame a t h with
      | same hrest => exact .same (by rw [bind_of_ok (heq.trans h), bind_of_ok h, hrest])
      | goesOn hf hstop' hfurther =>
        refine .goesOn (by rw [bind_of_ok h, hf]) hstop' ?_
        rwa [leaves_bind_of_ok (heq.trans h)]
  | @goesOn a t h ha hfurther =>
    obtain ⟨b, u, hf, hb, hjournal⟩ := hstop a t h ha
    refine .goesOn (by rw [bind_of_ok h, hf]) hb ?_
    rw [hjournal]
    refine hfurther.trans ?_
    cases hy : y s with
    | error failure v =>
      have hleaves : (y >>= g).leaves s = y.leaves s :=
        (leaves_bind_of_error hy).trans (leaves_of_error hy).symm
      exact hleaves ▸ List.prefix_refl _
    | ok c v =>
      rw [leaves_of_ok hy, leaves_bind_of_ok hy]
      exact (hgrows c v).isPrefix

end Outlasts

end Action

/-! ## Stages -/

/-- With more attempts to spare a stage does the same, or goes on where its attempts were used up. -/
theorem attempts_outlasts (stage : Stage) (tool : BuildTool σ) (c : Call) (policy : Repair.Policy)
    (file : Path) (spare more : Nat) (s : Session σ) :
    (attempts stage (call tool c) policy file (spare + more)).Outlasts
      (attempts stage (call tool c) policy file spare)
      (fun e => e.gaveUp = some .noAttemptsLeft) s := by
  induction spare generalizing s with
  | zero =>
    cases more with
    | zero => exact .same rfl
    | succ more =>
      rw [Nat.zero_add]
      refine outlasts_bind fun result t _ => ?_
      cases hresult : result.success with
      | true => exact .same rfl
      | false =>
        have hrest := retry_grows stage tool c policy file more result t
        exact .goesOn rfl rfl hrest.isPrefix
  | succ spare ih =>
    rw [Nat.add_right_comm]
    refine outlasts_bind fun result t _ => ?_
    split
    · exact .same rfl
    · refine outlasts_bind fun o u _ => ?_
      split
      · refine (ih u).bind (fun _ _ _ => .same rfl) ?_ fun _ => leads_pure _
        intro e v _ he
        exact ⟨_, v, rfl, he, rfl⟩
      · exact .same rfl

namespace Loop

/-- The loop with more attempts for each stage. -/
def allowing (l : Loop σ) (more : Nat) : Loop σ :=
  { l with budget := l.budget + more, budget_pos := Nat.add_pos_left l.budget_pos more }

variable (l : Loop σ) (more : Nat)

theorem allowing_spare : (l.allowing more).budget - 1 = l.budget - 1 + more :=
  Nat.sub_add_comm l.budget_pos

theorem runStage_grows (stage : Stage) (c : Call) (file : Path) :
    (l.runStage stage c file).Grows :=
  runStage_leads l stage (acrossCall_adds fun _ _ => trivial)
    fun _ => acrossWrite_adds fun _ => trivial

theorem runStage_outlasts (stage : Stage) (c : Call) (file : Path) (s : Session σ) :
    ((l.allowing more).runStage stage c file).Outlasts (l.runStage stage c file)
      (fun e => e.gaveUp = some .noAttemptsLeft) s := by
  refine outlasts_bind fun step t hstart => ?_
  cases hstart
  rw [allowing_spare]
  refine (attempts_outlasts ..).bind (fun _ _ _ => .same rfl) ?_ fun e => ?_
  · -- the step of a stage whose attempts are used up can be finished, as that of every stage
    intro e t (hattempts : attempts stage (call l.tool c) (l.rules stage) file (l.budget - 1)
      (s.starting stage) = .ok e t) he
    obtain ⟨as, hstage⟩ := exists_stageRun_of_attempts hattempts
    have hrun := runStage_of_stageRun hstage
    unfold runStage at hrun
    rw [bind_of_ok (startStep_eq stage s), bind_of_ok hattempts] at hrun
    exact ⟨e, _, hrun, he, finishing_journal ..⟩
  · dsimp only
    split
    · exact (leads_finishStep _ _).bind fun _ => leads_pure _
    · exact (leads_finishStep _ _).bind fun _ => leads_pure _

/-! ## Runs -/

theorem outcome_of_noAttemptsLeft {e : StageEnd} (he : e.gaveUp = some .noAttemptsLeft)
    (module : String) (before : List LoopState) (stage : Stage) :
    (outcome module before stage e).reason = some .noAttemptsLeft ∧
      (outcome module before stage e).success = false := by
  refine ⟨he, ?_⟩
  unfold LoopOutcome.success outcome
  rw [he]
  rfl

/-- With more attempts a run does the same, or goes on where the attempts of a stage were used up. -/
theorem run_outlasts (root : Path) (testPath : String) (s : Session σ) :
    ((l.allowing more).run root testPath).Outlasts (l.run root testPath)
      (fun o => o.reason = some .noAttemptsLeft ∧ o.success = false) s := by
  refine outlasts_bind fun present t _ => ?_
  dsimp only
  split
  · exact .same rfl
  refine (runStage_outlasts l more .compile _ _ t).bind ?_ ?_ ?_
  · intro compiled u _
    split
    · exact .same rfl
    · refine (runStage_outlasts l more .execute _ _ u).bind (fun _ _ _ => .same rfl) ?_
        fun _ => leads_pure _
      intro executed v _ hused
      exact ⟨_, v, rfl, outcome_of_noAttemptsLeft hused .., rfl⟩
  · intro compiled u _ hused
    rw [if_pos (by rw [hused]; rfl)]
    exact ⟨_, u, rfl, outcome_of_noAttemptsLeft hused .., rfl⟩
  · intro compiled
    split
    · exact leads_pure _
    · exact (runStage_grows (l.allowing more) _ _ _).bind fun _ => leads_pure _

theorem run_grows (root : Path) (testPath : String) : (l.run root testPath).Grows :=
  run_leads l root testPath
    ⟨fun _ => acrossCall_adds fun _ _ => trivial, fun _ => acrossCall_adds fun _ _ => trivial⟩
    fun _ _ => acrossWrite_adds fun _ => trivial

end Loop

/-- With more attempts for each stage a run notes the same calls and the same writes, in the same order,
and perhaps more of them behind. Where it does not end for lack of attempts, it comes to the very same:
outcome, report, journal and files. So a success stays a success. -/
theorem larger_budget_goes_on (l : Loop σ) (more : Nat) (root : Path) (testPath : String)
    (s : Session σ) :
    (∃ new later, ((l.run root testPath).leaves s).journal = s.journal ++ new ∧
      (((l.allowing more).run root testPath).leaves s).journal = s.journal ++ new ++ later) ∧
    ((∀ o t, l.run root testPath s = .ok o t → o.reason ≠ some .noAttemptsLeft) →
      (l.allowing more).run root testPath s = l.run root testPath s) ∧
    (∀ o t, l.run root testPath s = .ok o t → o.success = true →
      (l.allowing more).run root testPath s = .ok o t) := by
  obtain ⟨new, hnew, -⟩ := l.run_grows root testPath s
  cases l.run_outlasts more root testPath s with
  | same heq =>
    refine ⟨⟨new, [], hnew, ?_⟩, fun _ => heq, fun o t h _ => heq.trans h⟩
    rw [List.append_nil, ← hnew, leaves, heq, leaves]
  | @goesOn o t h hused hfurther =>
    obtain ⟨later, hlater⟩ := hfurther
    refine ⟨⟨new, later, hnew, ?_⟩, fun hends => absurd hused.1 (hends o t h), ?_⟩
    · rw [← hlater, ← hnew, leaves_of_ok h]
    · intro o' t' h' hsuccess
      rw [h] at h'
      cases h'
      rw [hused.2] at hsuccess
      cases hsuccess

end Testsmith
