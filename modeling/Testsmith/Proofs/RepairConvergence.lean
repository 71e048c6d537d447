import Mathlib.Data.List.Nodup
import Mathlib.Data.List.Perm.Subperm
import Testsmith.Proofs.Replacement

/-!
# Convergence of repairs

What a sequence of failures makes of a text in the end. Firings of rules are followed one by one: the
rules of a policy settle (`Policy.Settles`) if firing a rule twice is firing it once, and no rule undoes
what another one has settled. Then only the first firing of each rule counts
(`Policy.Settles.applyAll_firsts`), every later one is the identity, and a text changes no more often
than there are rules. For the rules for compiling this is a matter of seams between replacements
(`compileRules_settles`); it is not that the rules commute. `repairs_converge` is the main statement.
-/

namespace Testsmith

namespace Repair

/-! ## Firings -/

/-- What some rules make of a text, one after the other. -/
def applyAll (rules : List Rule) (text : List Char) : List Char :=
  rules.foldl (fun text rule => rule.patch.apply text) text

/-- The firings that some failures bring about, in order. -/
def Policy.fired (policy : Policy) (messages : List String) : List Rule :=
  messages.flatMap policy.firing

/-- Each of some rules once, in the order in which they come first. Rules are told apart by name. -/
def firsts (rules : List Rule) : List Rule := rules.eraseDupsBy fun a b => a.name == b.name

/-- The firings that change the text. -/
def effective : List Rule → List Char → List Rule
  | [], _ => []
  | rule :: rules, text =>
    if rule.patch.apply text = text then effective rules text
    else rule :: effective rules (rule.patch.apply text)

section Firings

variable {policy : Policy} {rules later : List Rule} {rule : Rule} {text : List Char}
  {messages : List String}

theorem applyAll_cons :
    applyAll (rule :: rules) text = applyAll rules (rule.patch.apply text) := rfl

theorem applyAll_append :
    applyAll (rules ++ later) text = applyAll later (applyAll rules text) := List.foldl_append

theorem mem_policy_of_mem_fired (h : rule ∈ policy.fired messages) : rule ∈ policy := by
  obtain ⟨message, -, hfiring⟩ := List.mem_flatMap.1 h
  exact (List.mem_filter.1 hfiring).1

/-- Failures that are repaired one after the other leave what their firings make of the text. -/
theorem Policy.foldl_attempt (policy : Policy) (text : String) (messages : List String) :
    messages.foldl (fun text message => (policy.attempt text message).text) text =
      String.ofList (applyAll (policy.fired messages) text.toList) := by
  induction messages generalizing text with
  | nil => exact String.ofList_toList.symm
  | cons message messages ih =>
    rw [List.foldl_cons, ih, Policy.text_attempt, Policy.repaired, String.toList_ofList]
    exact congrArg String.ofList applyAll_append.symm

/-- What a file holds after some failures is what repairing one after the other leaves. -/
theorem Policy.repaired_eq_foldl (policy : Policy) (text : String) (messages : List String) :
    policy.repaired text messages =
      messages.foldl (fun text message => (policy.attempt text message).text) text := by
  induction messages generalizing text with
  | nil => exact Policy.repaired_nil
  | cons message messages ih => rw [Policy.repaired_cons, ih, List.foldl_cons, Policy.text_attempt]

theorem effective_cons : effective (rule :: rules) text =
    if rule.patch.apply text = text then effective rules text
    else rule :: effective rules (rule.patch.apply text) := rfl

theorem effective_append (rules later : List Rule) (text : List Char) :
    effective (rules ++ later) text = effective rules text ++ effective later (applyAll rules text) := by
  induction rules generalizing text with
  | nil => rfl
  | cons rule rules ih =>
    rw [List.cons_append, effective_cons, effective_cons, applyAll_cons]
    split
    · next hsame => rw [ih, hsame]
    · rw [ih, List.cons_append]

theorem applyAll_of_settled (h : ∀ rule ∈ rules, rule.patch.apply text = text) :
    applyAll rules text = text := by
  induction rules with
  | nil => rfl
  | cons rule rules ih =>
    obtain ⟨hrule, hrules⟩ := List.forall_mem_cons.1 h
    rw [applyAll_cons, hrule]
    exact ih hrules

theorem effective_subset (rules : List Rule) (text : List Char) : effective rules text ⊆ rules := by
  fun_induction effective rules text with
  | case1 => exact List.Subset.refl _
  | case2 rule rules text _ ih => exact List.Subset.trans ih (List.subset_cons_self rule rules)
  | case3 rule rules text _ ih => exact List.cons_subset_cons rule ih

theorem applyAll_of_effective_eq_nil (h : effective rules text = []) : applyAll rules text = text := by
  induction rules generalizing text with
  | nil => rfl
  | cons rule rules ih =>
    rw [effective_cons] at h
    split at h
    · next hsame =>
      rw [applyAll_cons, hsame]
      exact ih h
    · cases h

end Firings

/-! ## Rules that settle -/

/-- Each rule leaves what it has made of a text, and where it would leave a text, it would also leave
what any rule makes of it. Rules have different names. -/
structure Policy.Settles (policy : Policy) : Prop where
  idempotent : ∀ rule ∈ policy, ∀ text,
    rule.patch.apply (rule.patch.apply text) = rule.patch.apply text
  undisturbed : ∀ rule ∈ policy, ∀ other ∈ policy, ∀ text, rule.patch.apply text = text →
    rule.patch.apply (other.patch.apply text) = other.patch.apply text
  names : (policy.map (·.name)).Nodup

namespace Policy.Settles

variable {policy : Policy} {rules : List Rule} {rule : Rule} {text : List Char}

/-- What a rule would leave, it would leave after other firings, too. -/
theorem applyAll_settled (h : policy.Settles) (hrule : rule ∈ policy) (hrules : rules ⊆ policy)
    (hsettled : rule.patch.apply text = text) :
    rule.patch.apply (applyAll rules text) = applyAll rules text := by
  induction rules generalizing text with
  | nil => exact hsettled
  | cons other rules ih =>
    obtain ⟨hother, hrules⟩ := List.cons_subset.1 hrules
    exact ih hrules (h.undisturbed rule hrule other hother text hsettled)

/-- A rule that has fired leaves the text. -/
theorem applyAll_of_mem (h : policy.Settles) (hrules : rules ⊆ policy) (hmem : rule ∈ rules) :
    rule.patch.apply (applyAll rules text) = applyAll rules text := by
  induction rules generalizing text with
  | nil => exact absurd hmem List.not_mem_nil
  | cons other rules ih =>
    obtain ⟨hother, hrest⟩ := List.cons_subset.1 hrules
    rcases List.mem_cons.1 hmem with rfl | hmem
    · rw [applyAll_cons]
      exact h.applyAll_settled hother hrest (h.idempotent rule hother text)
    · exact ih hrest hmem

theorem eq_of_name_eq (h : policy.Settles) {other : Rule} (hrule : rule ∈ policy)
    (hother : other ∈ policy) (hname : other.name = rule.name) : other = rule :=
  List.inj_on_of_nodup_map h.names hother hrule hname

/-- The firings of a rule that would leave the text can be left out. -/
theorem applyAll_filter (h : policy.Settles) (hrule : rule ∈ policy) (hrules : rules ⊆ policy)
    (hsettled : rule.patch.apply text = text) :
    applyAll (rules.filter fun other => (other.name == rule.name) = false) text =
      applyAll rules text := by
  induction rules generalizing text with
  | nil => rfl
  | cons other rules ih =>
    obtain ⟨hother, hrest⟩ := List.cons_subset.1 hrules
    by_cases hname : other.name = rule.name
    · obtain rfl := h.eq_of_name_eq hrule hother hname
      rw [List.filter_cons_of_neg (by simp), ih hrest hsettled, applyAll_cons, hsettled]
    · rw [List.filter_cons_of_pos (by simpa using hname), applyAll_cons, applyAll_cons]
      exact ih hrest (h.undisturbed rule hrule other hother text hsettled)

/-- Only the first firing of each rule counts. -/
theorem applyAll_firsts (h : policy.Settles) (hrules : rules ⊆ policy) (text : List Char) :
    applyAll (firsts rules) text = applyAll rules text := by
  -- By the number of firings: behind the first one, those of the same rule are left out.
  induction hlen : rules.length using Nat.strongRecOn generalizing rules text with
  | ind n ih =>
    subst hlen
    cases rules with
    | nil => rfl
    | cons rule rules =>
      obtain ⟨hrule, hrest⟩ := List.cons_subset.1 hrules
      unfold firsts
      rw [List.eraseDupsBy_cons]
      have hfilter := List.filter_sublist (p := fun other => (other.name == rule.name) = false) (l := rules)
      change applyAll (firsts _) (rule.patch.apply text) = applyAll rules (rule.patch.apply text)
      rw [ih _ (Nat.lt_succ_of_le hfilter.length_le) (List.Subset.trans hfilter.subset hrest) _ rfl]
      exact h.applyAll_filter hrule hrest (h.idempotent rule hrule text)

/-- A rule that would leave the text does not change it later. -/
theorem not_mem_effective (h : policy.Settles) (hrule : rule ∈ policy) (hrules : rules ⊆ policy)
    (hsettled : rule.patch.apply text = text) : rule ∉ effective rules text := by
  fun_induction effective rules text with
  | case1 => exact List.not_mem_nil
  | case2 other rules text _ ih => exact ih (List.cons_subset.1 hrules).2 hsettled
  | case3 other rules text hchange ih =>
    obtain ⟨hother, hrest⟩ := List.cons_subset.1 hrules
    rw [List.mem_cons, not_or]
    refine ⟨?_, ih hrest (h.undisturbed rule hrule other hother text hsettled)⟩
    rintro rfl
    exact hchange hsettled

theorem nodup_effective (h : policy.Settles) (hrules : rules ⊆ policy) :
    (effective rules text).Nodup := by
  fun_induction effective rules text with
  | case1 => exact List.nodup_nil
  | case2 rule rules text _ ih => exact ih (List.cons_subset.1 hrules).2
  | case3 rule rules text _ ih =>
    obtain ⟨hrule, hrest⟩ := List.cons_subset.1 hrules
    exact List.nodup_cons.2
      ⟨h.not_mem_effective hrule hrest (h.idempotent rule hrule text), ih hrest⟩

/-- A text changes no more often than there are rules. -/
theorem length_effective_le (h : policy.Settles) (hrules : rules ⊆ policy) (text : List Char) :
    (effective rules text).length ≤ policy.length :=
  (List.subperm_of_subset (h.nodup_effective hrules)
    (List.Subset.trans (effective_subset rules text) hrules)).length_le

end Policy.Settles

/-- Repairing again for the same failure changes nothing. -/
theorem Policy.Settles.attempt_attempt {policy : Policy} (h : policy.Settles) (text message : String) :
    policy.attempt (policy.attempt text message).text message = policy.attempt text message := by
  have hsettled : applyAll (policy.firing message) (applyAll (policy.firing message) text.toList) =
      applyAll (policy.firing message) text.toList :=
    applyAll_of_settled fun _ hrule => h.applyAll_of_mem (List.filter_subset_self policy) hrule
  unfold Policy.attempt
  dsimp only
  rw [String.toList_ofList]
  exact congrArg (fun text => Outcome.mk (String.ofList text) _) hsettled

/-! ## The rules for compiling -/

theorem compileRules_settles : Policy.Settles compileRules := by
  have hswaps : ∀ rule ∈ compileRules, ∃ swaps, rule.patch.apply = swapAll swaps := by
    simp only [compileRules, List.forall_mem_cons]
    exact ⟨⟨[.unit], rfl⟩, ⟨[.yes, .no], rfl⟩, nofun⟩
  refine ⟨?_, ?_, by decide⟩
  · intro rule hrule text
    obtain ⟨swaps, hpatch⟩ := hswaps rule hrule
    rw [hpatch]
    exact swapAll_eq_self_iff.2 fun a ha => not_occurs_swapAll ha
  · intro rule hrule other hother text hsettled
    obtain ⟨swaps, hpatch⟩ := hswaps rule hrule
    obtain ⟨others, hothers⟩ := hswaps other hother
    rw [hpatch, swapAll_eq_self_iff] at hsettled
    rw [hpatch, hothers, swapAll_eq_self_iff]
    exact fun a ha hoccurs => hsettled a ha (occurs_of_swapAll hoccurs)

/-- What the rules for compiling make of a text for a sequence of failures: what each rule that fires
makes of it once, in the order of the first firings. A rule that has fired leaves the text, so two
firings change it at most. -/
structure Converges (text : String) (messages : List String) : Prop where
  text_eq : messages.foldl (fun text message => (compileRules.attempt text message).text) text =
    String.ofList (applyAll (firsts (compileRules.fired messages)) text.toList)
  later_eq : ∀ before rule later, compileRules.fired messages = before ++ rule :: later →
    rule ∈ before → rule.patch.apply (applyAll before text.toList) = applyAll before text.toList
  length_effective_le : (effective (compileRules.fired messages) text.toList).length ≤ 2

theorem converges (text : String) (messages : List String) : Converges text messages where
  text_eq := by
    rw [Policy.foldl_attempt]
    exact congrArg String.ofList
      (compileRules_settles.applyAll_firsts (fun _ => mem_policy_of_mem_fired) _).symm
  later_eq before rule later hfired hmem := by
    refine compileRules_settles.applyAll_of_mem (fun other hother => ?_) hmem
    exact mem_policy_of_mem_fired (hfired ▸ List.mem_append_left _ hother)
  length_effective_le :=
    compileRules_settles.length_effective_le (fun _ => mem_policy_of_mem_fired) _

-- The order of the first firings matters: a word does not end in front of what a flag becomes.
example : applyAll (compileRules.fired ["Unit but Long", "String but Boolean"])
    "returns Unit\"Y\"".toList = "returns 1Ltrue".toList := by decide

example : applyAll (compileRules.fired ["String but Boolean", "Unit but Long"])
    "returns Unit\"Y\"".toList = "returns Unittrue".toList := by decide

/-! ## Changes of a text -/

/-- A text as it is found and after each of some repairs. -/
def Policy.texts (policy : Policy) (text : String) (messages : List String) : List String :=
  messages.scanl (fun text message => (policy.attempt text message).text) text

/-- How often a sequence goes on with another text. -/
def changes (texts : List String) : Nat := (texts.zip texts.tail).countP fun (a, b) => a != b

section Changes

variable {policy : Policy} {text : String} {messages : List String}

theorem changes_cons_cons (a b : String) (texts : List String) :
    changes (a :: b :: texts) = (if a = b then 0 else 1) + changes (b :: texts) := by
  simp only [changes, List.tail_cons, List.zip_cons_cons, List.countP_cons]
  rw [Nat.add_comm]
  by_cases h : a = b <;> simp [h]

theorem Policy.text_attempt_eq (policy : Policy) (text message : String) :
    (policy.attempt text message).text =
      String.ofList (applyAll (policy.firing message) text.toList) := rfl

theorem Policy.texts_cons (message : String) : policy.texts text (message :: messages) =
    text :: policy.texts (policy.attempt text message).text messages := List.scanl_cons

theorem Policy.exists_texts_eq (policy : Policy) (text : String) (messages : List String) :
    ∃ later, policy.texts text messages = text :: later := by
  cases messages with
  | nil => exact ⟨[], rfl⟩
  | cons message messages => exact ⟨_, Policy.texts_cons message⟩

/-- Every change is made by a firing. -/
theorem changes_texts_le (policy : Policy) (text : String) (messages : List String) :
    changes (policy.texts text messages) ≤
      (effective (policy.fired messages) text.toList).length := by
  induction messages generalizing text with
  | nil => exact Nat.zero_le _
  | cons message messages ih =>
    obtain ⟨later, hlater⟩ := policy.exists_texts_eq (policy.attempt text message).text messages
    have hrest := ih (policy.attempt text message).text
    rw [Policy.texts_cons, hlater, changes_cons_cons, ← hlater]
    rw [Policy.text_attempt_eq, String.toList_ofList] at hrest
    change _ ≤ (effective (policy.firing message ++ policy.fired messages) text.toList).length
    rw [effective_append, List.length_append]
    refine Nat.add_le_add ?_ hrest
    split
    · exact Nat.zero_le _
    · next hchange =>
      refine List.length_pos_iff.2 fun hnil => hchange ?_
      rw [Policy.text_attempt_eq, applyAll_of_effective_eq_nil hnil, String.ofList_toList]

end Changes

end Repair

/-! ## Runs -/

variable {σ : Type}

/-- The attempts of a stage see the text that the stage finds, and what each of the repairs makes of
it. -/
theorem StageFiles.map_text_eq {cwd : Location} {c : Call} {file : Path} {policy : Repair.Policy}
    {content : ByteArray} {text : String} {as : List Attempt} {files : FileTree}
    {events : List Event} (h : StageFiles cwd c file policy content text as files events)
    (hpolicy : policy.KeepsLineEnds) (hdecode : Action.decode content = .ok text) (hne : as ≠ []) :
    as.map (fun a => a.files.text cwd file) =
      (policy.texts text (failuresOf as.dropLast)).map .ok := by
  have hpos := List.length_pos_iff.2 hne
  have hlength : (failuresOf as.dropLast).length = as.length - 1 := by simp [failuresOf]
  refine List.ext_getElem? fun i => ?_
  rw [List.getElem?_map, List.getElem?_map, Repair.Policy.texts, List.getElem?_scanl, hlength]
  by_cases hi : i < as.length
  · have hseen := FileTree.text_of_read (h.sees i as[i] (List.getElem?_eq_getElem hi))
      (Repair.Policy.decode_contentAfter hpolicy hdecode _)
    have htake : (failuresOf as.dropLast).take i = failuresOf (as.take i) := by
      rw [failuresOf, failuresOf, ← List.map_take, List.dropLast_eq_take, List.take_take,
        Nat.min_eq_left (by omega)]
    rw [List.getElem?_eq_getElem hi, if_pos (by omega), htake, Option.map_some, Option.map_some, hseen,
      Repair.Policy.repaired_eq_foldl]
  · rw [List.getElem?_eq_none (by omega), if_neg (by omega)]
    rfl

/-- The compilations of a run see the text that the run finds, and what each of the repairs makes of
it. -/
theorem LoopRun.map_text_eq {l : Loop σ} {root : Path} {testPath : String} {s t : Session σ}
    {as bs : List Attempt} {o : LoopOutcome} (h : LoopRun l root testPath s as bs o t)
    (htool : l.tool.KeepsFile s.workingDirectory (root / testPath))
    (hcompile : l.compileRules.KeepsLineEnds) {content : ByteArray} {text : String}
    (hread : s.files.read s.workingDirectory (root / testPath) = .ok content)
    (hdecode : Action.decode content = .ok text) :
    as.map (fun a => a.files.text s.workingDirectory (root / testPath)) =
      (l.compileRules.texts text (failuresOf as.dropLast)).map .ok := by
  cases h with
  | stopped compiled _ | executed compiled _ _ =>
    obtain ⟨_, -, hfiles⟩ := compiled.files htool hcompile hread hdecode
    exact hfiles.map_text_eq hcompile hdecode compiled.ne_nil

/-- **Repairs converge**: for any sequence of failures the rules for compiling make of a text what each
rule that fires makes of it once, in the order of the first firings, and a rule that has fired leaves the
text. So repairing twice for one failure is repairing once, and in a run with a build tool that answers
every call and leaves the test file alone, the text of the file changes twice at most while it
compiles. -/
theorem repairs_converge :
    (∀ text messages, Repair.Converges text messages) ∧
    (∀ text message, Repair.compileRules.attempt (Repair.compileRules.attempt text message).text message =
      Repair.compileRules.attempt text message) ∧
    ∀ {σ : Type} (l : Loop σ) (root : Path) (testPath : String) (s : Session σ) (content : ByteArray)
      (text : String), s.files.read s.workingDirectory (root / testPath) = .ok content →
      Action.decode content = .ok text → l.tool.KeepsFile s.workingDirectory (root / testPath) →
      l.compileRules = Repair.compileRules →
      ∃ o t compiles runs new texts, l.run root testPath s = .ok o t ∧ t.journal = s.journal ++ new ∧
        new.filterMap Event.call? = callsOf (l.callOf testPath .compile) compiles ++
          callsOf (l.callOf testPath .execute) runs ∧
        compiles.map (fun a => a.files.text s.workingDirectory (root / testPath)) = texts.map .ok ∧
        Repair.changes texts ≤ 2 := by
  refine ⟨Repair.converges, Repair.compileRules_settles.attempt_attempt, ?_⟩
  intro σ l root testPath s content text hread hdecode htool hcompile
  obtain ⟨as, bs, o, t, hrun, hrules⟩ :=
    exists_loopRun htool.keepsText (FileTree.text_of_read hread hdecode)
  obtain ⟨new, hnew, hcalls⟩ := hrules.calls_eq
  have hkept : l.compileRules.KeepsLineEnds := hcompile ▸ Repair.compileRules_keepsLineEnds
  have htexts := hrules.map_text_eq htool hkept hread hdecode
  refine ⟨o, t, as, bs, new, _, hrun, hnew, hcalls, htexts, ?_⟩
  rw [hcompile]
  exact Nat.le_trans (Repair.changes_texts_le _ _ _) (Repair.converges _ _).length_effective_le

theorem repairs_converge_patient :
    ∃ o t compiles runs new texts, Loop.patient.run (.ofText "/project") "ServiceTest.kt"
        (.ofTest "returns Unit".toUTF8) = .ok o t ∧
      t.journal = (Session.ofTest "returns Unit".toUTF8).journal ++ new ∧
      new.filterMap Event.call? = callsOf (Loop.patient.callOf "ServiceTest.kt" .compile) compiles ++
        callsOf (Loop.patient.callOf "ServiceTest.kt" .execute) runs ∧
      compiles.map (fun a => a.files.text (Session.ofTest "returns Unit".toUTF8).workingDirectory
        (Path.ofText "/project" / "ServiceTest.kt")) = texts.map .ok ∧
      Repair.changes texts ≤ 2 :=
  repairs_converge.2.2 _ _ _ _ _ _ (Session.read_ofTest _) (Action.decode_encode _)
    (BuildTool.keepsFile_failing _ _ _) rfl

end Testsmith
