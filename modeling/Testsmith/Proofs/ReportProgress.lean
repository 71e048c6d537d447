import Testsmith.Proofs.Indifference

/-!
# How a report goes on

A report always stands somewhere in a plan: some steps are completed, and one more may be under way or
failed (`Report.Standing`). Starting, completing and failing a step move a report from one such place to
the next, and closing it after an unexpected failure leaves nothing under way.

Actions are followed with `Action.Ends`, which says of an action where the report stands when it gives a
value and where when it fails. Most actions keep the report in both cases (`Action.KeepsReport`), since
they do not see it.
-/

namespace Testsmith

variable {σ α β : Type}

/-! ## Places in a plan -/

/-- What callers see of the progress of a step. -/
def Step.row (s : Step) : Int × String × Status := (s.number, s.name, s.status)

namespace Report

/-- The rows of completed steps. -/
def completedRows (done : List String) : List (Int × String × Status) :=
  done.mapIdx fun i name => ((i : Int) + 1, name, .completed)

/-- Some steps are completed, in this order, and one more may be under way or failed. -/
def Standing (r : Report) (done : List String) (last : Option (String × Status)) : Prop :=
  r.steps.map Step.row = completedRows done ++
    last.toList.map fun (name, status) => ((done.length : Int) + 1, name, status)

/-- The report stands somewhere in a plan, and no step is under way. -/
inductive Stopped (plan : List String) (r : Report) : Prop
  | completed {done : List String} (standing : r.Standing done none) (planned : done <+: plan)
  | failed {done : List String} {name : String} (standing : r.Standing done (some (name, .failed)))
      (planned : done ++ [name] <+: plan)

/-- The report stands somewhere in a plan. -/
inductive Within (plan : List String) (r : Report) : Prop
  | stopped (h : r.Stopped plan)
  | underWay {done : List String} {name : String}
      (standing : r.Standing done (some (name, .inProgress))) (planned : done ++ [name] <+: plan)

variable {r : Report} {plan done : List String} {name : String} {status : Status} {steps : List Step}

theorem length_completedRows : (completedRows done).length = done.length := by
  simp [completedRows]

theorem completedRows_concat : completedRows (done ++ [name]) =
    completedRows done ++ [((done.length : Int) + 1, name, .completed)] :=
  List.mapIdx_concat

theorem number_of_rows (h : steps.map Step.row = completedRows done) (i : Nat) (step : Step)
    (hi : steps[i]? = some step) : step.number = i + 1 := by
  have hrow : (completedRows done)[i]? = some step.row := by
    rw [← h, List.getElem?_map, hi]
    rfl
  rw [completedRows, List.getElem?_mapIdx] at hrow
  obtain ⟨name, -, hrow⟩ := Option.map_eq_some_iff.1 hrow
  exact (congrArg (·.1) hrow).symm

theorem names_of_rows (h : steps.map Step.row = completedRows done) :
    steps.map (·.name) = done := by
  have hnames : (completedRows done).map (·.2.1) = done := by
    refine List.ext_getElem? fun i => ?_
    rw [List.getElem?_map, completedRows, List.getElem?_mapIdx]
    cases done[i]? <;> rfl
  rw [← hnames, ← h, List.map_map]
  rfl

theorem status_of_rows (h : steps.map Step.row = completedRows done) :
    ∀ step ∈ steps, step.status = .completed := by
  intro step hstep
  have hmem : step.row ∈ completedRows done := h ▸ List.mem_map_of_mem hstep
  obtain ⟨i, hi, hrow⟩ := List.mem_mapIdx.1 hmem
  exact (congrArg (·.2.2) hrow).symm

theorem Standing.rows_eq (h : r.Standing done none) : r.steps.map Step.row = completedRows done :=
  h.trans (List.append_nil _)

theorem standing_empty : ({} : Report).Standing [] none := rfl

theorem Standing.length_eq (h : r.Standing done none) : r.length = done.length := by
  have hlen := congrArg List.length h
  simpa [length_completedRows, Report.length] using hlen

/-- The step that is under way or failed stands behind the completed ones. -/
theorem Standing.steps_eq (h : r.Standing done (some (name, status))) :
    ∃ front step, r.steps = front ++ [step] ∧ front.length = done.length ∧
      front.map Step.row = completedRows done ∧
      step.number = (done.length : Int) + 1 ∧ step.name = name ∧ step.status = status := by
  obtain ⟨front, back, hsteps, hfront, hback⟩ := List.map_eq_append_iff.1 h
  obtain ⟨step, rfl, hrow⟩ := List.map_eq_singleton_iff.1 hback
  have hlen : front.length = done.length := by
    have hrows := congrArg List.length hfront
    rwa [List.length_map, length_completedRows] at hrows
  simp only [Step.row, Prod.mk.injEq] at hrow
  exact ⟨front, step, hsteps, hlen, hfront, hrow⟩

theorem Standing.start (h : r.Standing done none) (name message : String) :
    (r.start name message).Standing done (some (name, .inProgress)) := by
  have hlen : r.steps.length = done.length := h.length_eq
  unfold Standing at h ⊢
  simp [Report.start, h, hlen, Step.row]

theorem Standing.finish (h : r.Standing done (some (name, .inProgress))) (how : Step → Step)
    (hhow : ∀ s, (how s).row = (s.number, s.name, status)) :
    ∃ r', r.finish done.length how = .ok r' ∧
      r'.steps.map Step.row = completedRows done ++ [((done.length : Int) + 1, name, status)] := by
  obtain ⟨front, step, hsteps, hlen, hfront, hnumber, hname, hstatus⟩ := h.steps_eq
  refine ⟨⟨front ++ [how step]⟩, ?_, ?_⟩
  · have hat : r.steps[done.length]? = some step := by rw [hsteps, ← hlen]; simp
    have hopen : step.isOpen = true := by simp [Step.isOpen, hstatus]
    rw [Report.finish_of_open how hat hopen, hsteps, ← hlen]
    simp
  · rw [List.map_append, hfront, List.map_singleton, hhow, hnumber, hname]

theorem Standing.complete (h : r.Standing done (some (name, .inProgress))) (result : Option Json)
    (message : Option String) :
    ∃ r', r.complete done.length result message = .ok r' ∧ r'.Standing (done ++ [name]) none := by
  obtain ⟨r', hr', hrows⟩ := h.finish (Step.complete result message) fun _ => rfl
  refine ⟨r', hr', ?_⟩
  rw [Standing, hrows, completedRows_concat]
  exact (List.append_nil _).symm

theorem Standing.fail (h : r.Standing done (some (name, .inProgress))) (error : String)
    (reason : Option String) (result : Option Json) :
    ∃ r', r.fail done.length error reason result = .ok r' ∧
      r'.Standing done (some (name, .failed)) :=
  h.finish (Step.fail error reason result) fun _ => rfl

theorem failOpen_of_not_open {error : String}
    (h : ∀ step, r.last? = some step → step.isOpen = false) : r.failOpen error = r := by
  unfold failOpen
  split
  · next step hlast => rw [if_neg (by simp [h step hlast])]
  · rfl

/-- After an unexpected failure nothing is under way. -/
theorem Within.failOpen (h : r.Within plan) (error : String) : (r.failOpen error).Stopped plan := by
  cases h with
  | stopped h =>
    rw [failOpen_of_not_open]
    · exact h
    · intro step hlast
      cases h with
      | completed standing _ =>
        have hstatus := status_of_rows standing.rows_eq step (List.mem_of_getLast? hlast)
        simp [Step.isOpen, hstatus]
      | failed standing _ =>
        obtain ⟨front, step', hsteps, -, -, -, -, hstatus⟩ := standing.steps_eq
        have hsame : step' = step := by simpa [Report.last?, hsteps] using hlast
        simp [Step.isOpen, ← hsame, hstatus]
  | @underWay done name standing planned =>
    obtain ⟨front, step, hsteps, -, hfront, hnumber, hname, hstatus⟩ := standing.steps_eq
    have hlast : r.last? = some step := by simp [Report.last?, hsteps]
    have hopen : step.isOpen = true := by simp [Step.isOpen, hstatus]
    have hfailed : (r.failOpen error).Standing done (some (name, .failed)) := by
      simp [Report.failOpen, hlast, hopen, hsteps, Standing, hfront, Step.row, Step.fail, hnumber,
        hname]
    exact .failed hfailed planned

end Report

/-! ## Following actions -/

namespace Action

/-- Where the report stands when an action from a session gives a value, and where when it fails. -/
def Ends (x : Action σ α) (s : Session σ) (ok : α → Report → Prop) (error : Report → Prop) : Prop :=
  match x s with
  | .ok a t => ok a t.report
  | .error _ t => error t.report

section Ends

variable {x : Action σ α} {f : α → Action σ β} {s : Session σ} {P P' : α → Report → Prop}
  {Q : β → Report → Prop} {E E' : Report → Prop}

theorem Ends.of_ok (hx : x.Ends s P E) {a : α} {t : Session σ} (h : x s = .ok a t) :
    P a t.report := by
  unfold Ends at hx
  rwa [h] at hx

theorem Ends.bind (hx : x.Ends s P E) (hf : ∀ a t, P a t.report → (f a).Ends t Q E) :
    (x >>= f).Ends s Q E := by
  unfold Ends at hx
  cases hxs : x s with
  | ok a t =>
    rw [hxs] at hx
    have h := hf a t hx
    unfold Ends at h ⊢
    rwa [bind_of_ok hxs]
  | error failure t =>
    rw [hxs] at hx
    unfold Ends
    rwa [bind_of_error hxs]

theorem Ends.mono (hx : x.Ends s P E) (hP : ∀ a r, P a r → P' a r) (hE : ∀ r, E r → E' r) :
    x.Ends s P' E' := by
  unfold Ends at hx ⊢
  cases hxs : x s with
  | ok a t => rw [hxs] at hx; exact hP a _ hx
  | error failure t => rw [hxs] at hx; exact hE _ hx

/-- What follows an attempt goes on from a value or from a failure. -/
theorem Ends.bind_attempt {f : Except Failure α → Action σ β} (hx : x.Ends s P E)
    (hok : ∀ a t, P a t.report → (f (.ok a)).Ends t Q E')
    (herror : ∀ failure t, E t.report → (f (.error failure)).Ends t Q E') :
    (attempt x >>= f).Ends s Q E' := by
  unfold Ends at hx
  cases hxs : x s with
  | ok a t =>
    rw [hxs] at hx
    have h := hok a t hx
    unfold Ends at h ⊢
    rwa [bind_of_ok (attempt_of_ok hxs)]
  | error failure t =>
    rw [hxs] at hx
    have h := herror failure t hx
    unfold Ends at h ⊢
    rwa [bind_of_ok (attempt_of_error hxs)]

/-- An action that never fails gives a value. -/
theorem Ends.exists_ok (hx : x.Ends s P fun _ => False) : ∃ a t, x s = .ok a t ∧ P a t.report := by
  unfold Ends at hx
  cases hxs : x s with
  | ok a t => rw [hxs] at hx; exact ⟨a, t, rfl, hx⟩
  | error failure t => rw [hxs] at hx; exact hx.elim

theorem ends_any (x : Action σ α) (s : Session σ) : x.Ends s (fun _ _ => True) fun _ => True := by
  unfold Ends
  split <;> trivial

theorem ends_pure {a : α} (h : P a s.report) : (pure a : Action σ α).Ends s P E := h

theorem ends_throw {failure : Failure} (h : E s.report) :
    (throw failure : Action σ α).Ends s P E := h

theorem ends_ofExcept {x : Except Failure α} (hok : ∀ a, x = .ok a → P a s.report)
    (herror : ∀ failure, x = .error failure → E s.report) :
    (Action.ofExcept x).Ends s P E := by
  cases x with
  | ok a => exact ends_pure (hok a rfl)
  | error failure => exact ends_throw (herror failure rfl)

theorem ends_startStep {done : List String} (h : s.report.Standing done none)
    (name message : String) :
    (startStep name message).Ends s
      (fun step r => step = done.length ∧ r.Standing done (some (name, .inProgress))) E :=
  ⟨h.length_eq, h.start name message⟩

theorem ends_finishStep {finish : Report → Except Step Report} {P : Report → Prop}
    (h : ∃ r, finish s.report = .ok r ∧ P r) :
    (finishStep finish).Ends s (fun _ r => P r) E := by
  obtain ⟨r, hr, hP⟩ := h
  unfold Ends
  rw [finishStep_of_ok hr]
  exact hP

end Ends

/-! ## Actions that keep the report -/

/-- The report after an action is the one before, also where the action fails. -/
def KeepsReport (x : Action σ α) : Prop :=
  ∀ s, x.Ends s (fun _ r => r = s.report) (· = s.report)

section Keeps

variable {x : Action σ α}

theorem KeepsReport.ends (h : x.KeepsReport) {s : Session σ} {E : Report → Prop} (hE : E s.report) :
    x.Ends s (fun _ r => r = s.report) E :=
  (h s).mono (fun _ _ h => h) fun _ h => h ▸ hE

/-- What commutes with every change of the report keeps it. -/
theorem KeepsReport.of_commutes (h : ∀ f, x.Commutes (.aside f id)) : x.KeepsReport := by
  intro s
  have hfixed : s.aside (fun _ => s.report) id = s := rfl
  unfold Ends
  cases hxs : x s with
  | ok a t =>
    have ht := congrArg Session.report ((h fun _ => s.report).fixed_of_ok hfixed hxs)
    exact ht
  | error failure t =>
    have ht := congrArg Session.report ((h fun _ => s.report).fixed_of_error hfixed hxs)
    exact ht

theorem keepsReport_ofExcept (x : Except Failure α) : (ofExcept x : Action σ α).KeepsReport :=
  .of_commutes fun _ => commutes_ofExcept x

theorem keepsReport_isFile (p : Path) : (isFile p : Action σ Bool).KeepsReport :=
  .of_commutes fun _ => commutes_isFile p

theorem keepsReport_writeText (p : Path) (text : String) :
    (writeText p text : Action σ Unit).KeepsReport :=
  .of_commutes fun _ => commutes_writeText p text

theorem keepsReport_makeDirectories (p : Path) :
    (makeDirectories p : Action σ Unit).KeepsReport :=
  .of_commutes fun _ => commutes_makeDirectories p

end Keeps

end Action

end Testsmith
