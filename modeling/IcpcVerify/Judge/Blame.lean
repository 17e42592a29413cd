import IcpcVerify.Judge.Acceptance

/-!
# Who is blamed

A testcase verdict either says something about the solution or admits that the
judging itself failed.  This file draws the line between the two exactly: a
missing record or a broken validator is never held against the solution, and a
broken validator never hides a failure of the solution's own.
-/

namespace IcpcVerify.Judge

open IcpcVerify.Python
open IcpcVerify.Timelimits
open IcpcVerify.Results
open IcpcVerify.Runner
open IcpcVerify.Sandbox
open IcpcVerify.Validators
open IcpcVerify.LazyScan

/-- `run.json` is missing in the mode that reads it. -/
def RecordMissing (mode : ValidationMode) (o : CaseOutcome) : Prop :=
  match mode with
  | .customInteractive => o.interactive.runJson = none
  | _ => o.run.runJson = none

/-- The validator container hung, or ended with neither answer. -/
def ValidatorBroken (o : ValidatorOutcome) : Prop :=
  o.container.timedOut = true ∨
    (o.container.exitCode ≠ 42 ∧ o.container.exitCode ≠ 43)

/-- The interactive validator hung, crashed or was killed. -/
def InteractiveValidatorBroken (raw : InteractiveRecord) : Prop :=
  raw.pairTimedOut = true ∨ (raw.validatorExit ≠ 42 ∧ raw.validatorExit ≠ 43)

/-- The measured run is accepted as far as the run itself goes. -/
def RunHealthy (limits : TimeLimits) (o : RunOutcome) : Prop :=
  ∃ raw, o.runJson = some raw ∧
    (classifyRun (measurementOf raw o.oomKilled) limits true []).1 = .accepted

/-- The faults of the judging that a testcase can show. -/
def JudgingFault (mode : ValidationMode) (limits : TimeLimits) (o : CaseOutcome) : Prop :=
  RecordMissing mode o ∨
    (mode = .custom ∧ RunHealthy limits o.run ∧ ValidatorBroken o.validator) ∨
    (mode = .customInteractive ∧ ∃ raw, o.interactive.runJson = some raw ∧
      raw.solution.timedOut = false ∧ raw.solution.wall ≤ limits.limit ∧
        InteractiveValidatorBroken raw)

/-- The recorded run of the solution is over time. -/
def OverTime (mode : ValidationMode) (limits : TimeLimits) (o : CaseOutcome) : Prop :=
  match mode with
  | .customInteractive => ∃ raw, o.interactive.runJson = some raw ∧
      (raw.solution.timedOut = true ∨ raw.solution.wall > limits.limit)
  | _ => ∃ raw, o.run.runJson = some raw ∧
      (raw.timedOut = true ∨ raw.wall > limits.limit)

/-- A verdict that lays every fault where it belongs. -/
structure FairVerdict (mode : ValidationMode) (limits : TimeLimits) (o : CaseOutcome)
    (verdict : Verdict) : Prop where
  judge_error : verdict = .judgeError ↔ JudgingFault mode limits o
  over_time : verdict = .timeLimitExceeded → OverTime mode limits o
  /-- A crashed, killed or hung interactive validator. -/
  interactive_validator : mode = .customInteractive →
    ∀ raw, o.interactive.runJson = some raw → InteractiveValidatorBroken raw →
      verdict ≠ .wrongAnswer ∧ verdict ≠ .runTimeError
  /-- A crashed, killed or hung validator container that was asked. -/
  custom_validator : mode = .custom → RunHealthy limits o.run →
    ValidatorBroken o.validator → verdict ≠ .wrongAnswer ∧ verdict ≠ .runTimeError
  unhealthy_run : mode = .custom → (∃ raw, o.run.runJson = some raw) →
    ¬RunHealthy limits o.run → verdict ≠ .judgeError

variable (rt : Runtime) (limits : TimeLimits) (memoryMib : ℤ)

theorem validatorBroken_iff (o : ValidatorOutcome) :
    ValidatorBroken o ↔ (o.verdict rt).1 = .judgeError := by
  rw [ValidatorOutcome.verdict, customVerdict_fst, ValidatorBroken,
    ← validatorVerdict_judgeError_iff]
  cases o.container.timedOut <;> simp

theorem customVerdict_timeLimitExceeded (o : ValidatorOutcome) :
    (o.verdict rt).1 ≠ .timeLimitExceeded := by
  rw [ValidatorOutcome.verdict, customVerdict_fst]
  rw [validatorVerdict]
  split_ifs <;> simp

theorem interactiveValidatorBroken_iff (raw : InteractiveRecord) :
    InteractiveValidatorBroken raw ↔ ¬ValidatorAnswered raw := by
  rw [InteractiveValidatorBroken, ValidatorAnswered]
  cases raw.pairTimedOut <;> simp

theorem classifyRun_ne_judgeError (m : RunMeasurement) (compareOk : Bool)
    (compareMessage : PyStr) :
    (classifyRun m limits compareOk compareMessage).1 ≠ .judgeError := by
  have := classifyRun_verdict m limits compareOk compareMessage
  intro hjudge
  simp [hjudge] at this

/-- Default mode: only a missing record is the judge's fault. -/
theorem fairVerdict_default (flags : Compare.CompareFlags)
    (case : TestCase × CaseOutcome) :
    FairVerdict .default limits case.2
      ((Judging.default flags).entry rt limits memoryMib case).verdict := by
  cases hjson : case.2.run.runJson with
  | none =>
      have hentry : ((Judging.default flags).entry rt limits memoryMib case).verdict =
          .judgeError := by
        simp [Judging.entry, hjson, missingResult]
      rw [hentry]
      refine ⟨iff_of_true rfl (Or.inl hjson), ?_, ?_, ?_, ?_⟩ <;> intro h <;> cases h
  | some raw =>
      have hentry : ((Judging.default flags).entry rt limits memoryMib case).verdict =
          ((Judging.default flags).classified rt limits
            (measurementOf raw case.2.run.oomKilled) case.2).1 := by
        simp [Judging.entry, hjson, measuredResult]
      rw [hentry, Judging.classified]
      refine ⟨iff_of_false (classifyRun_ne_judgeError limits _ _ _) ?_, ?_, ?_, ?_, ?_⟩
      · rintro (hmissing | ⟨hmode, -⟩ | ⟨hmode, -⟩)
        · cases hjson.symm.trans hmissing
        · cases hmode
        · cases hmode
      · intro htime
        exact ⟨raw, hjson, (classifyRun_timeLimitExceeded_iff _ _ _ _).1 htime⟩
      all_goals
        intro hmode
        cases hmode

/-- Custom mode: the validator is only asked about, and only blamed for, a run
that is healthy by itself. -/
theorem fairVerdict_custom (validator : BuiltValidator) (case : TestCase × CaseOutcome) :
    FairVerdict .custom limits case.2
      ((Judging.custom validator).entry rt limits memoryMib case).verdict := by
  cases hjson : case.2.run.runJson with
  | none =>
      have hentry : ((Judging.custom validator).entry rt limits memoryMib case).verdict =
          .judgeError := by
        simp [Judging.entry, hjson, missingResult]
      rw [hentry]
      refine ⟨iff_of_true rfl (Or.inl hjson), by simp, by simp, ?_, ?_⟩
      · intro _ _ _
        exact ⟨by decide, by decide⟩
      · rintro - ⟨raw, hraw⟩
        cases hjson.symm.trans hraw
  | some raw =>
      have hentry : ((Judging.custom validator).entry rt limits memoryMib case).verdict =
          (if (classifyRun (measurementOf raw case.2.run.oomKilled) limits true []).1 =
              .accepted then case.2.validator.verdict rt
            else classifyRun (measurementOf raw case.2.run.oomKilled) limits true []).1 := by
        simp [Judging.entry, Judging.classified, hjson, measuredResult]
      have hhealthy : RunHealthy limits case.2.run ↔
          (classifyRun (measurementOf raw case.2.run.oomKilled) limits true []).1 =
            .accepted := by
        simp [RunHealthy, hjson]
      rw [hentry]
      by_cases haccepted : (classifyRun (measurementOf raw case.2.run.oomKilled) limits
          true []).1 = .accepted
      · have hrun : RunHealthy limits case.2.run := hhealthy.2 haccepted
        rw [if_pos haccepted]
        refine ⟨?_, fun htime => absurd htime (customVerdict_timeLimitExceeded rt _),
          by simp, ?_, fun _ _ hunhealthy => absurd hrun hunhealthy⟩
        · rw [← validatorBroken_iff]
          simp [JudgingFault, RecordMissing, hjson, hrun]
        · intro _ _ hbroken
          rw [(validatorBroken_iff rt _).1 hbroken]
          exact ⟨by decide, by decide⟩
      · have hrun : ¬RunHealthy limits case.2.run := fun h => haccepted (hhealthy.1 h)
        have hjudge := classifyRun_ne_judgeError limits
          (measurementOf raw case.2.run.oomKilled) true []
        rw [if_neg haccepted]
        refine ⟨iff_of_false hjudge ?_, ?_, by simp, fun _ h => absurd h hrun,
          fun _ _ _ => hjudge⟩
        · simp [JudgingFault, RecordMissing, hjson, hrun]
        · intro htime
          exact ⟨raw, hjson, (classifyRun_timeLimitExceeded_iff _ _ _ _).1 htime⟩

/-- Interactive mode: the validator is blamed unless the solution itself is over
time. -/
theorem fairVerdict_interactive (validator : BuiltValidator)
    (case : TestCase × CaseOutcome) :
    FairVerdict .customInteractive limits case.2
      ((Judging.interactive validator).entry rt limits memoryMib case).verdict := by
  cases hjson : case.2.interactive.runJson with
  | none =>
      have hentry : ((Judging.interactive validator).entry rt limits memoryMib
          case).verdict = .judgeError := by
        simp [Judging.entry, hjson, missingResult]
      rw [hentry]
      refine ⟨iff_of_true rfl (Or.inl hjson), by simp, ?_, by simp, by simp⟩
      intro _ _ _ _
      exact ⟨by decide, by decide⟩
  | some raw =>
      have hentry : ((Judging.interactive validator).entry rt limits memoryMib
          case).verdict = (classifyInteractive raw limits memoryMib).1 := by
        simp [Judging.entry, hjson, interactiveResult]
      rw [hentry]
      refine ⟨?_, ?_, ?_, by simp, by simp⟩
      · rw [classifyInteractive_judgeError_iff, ← interactiveValidatorBroken_iff]
        simp [JudgingFault, RecordMissing, hjson, SolutionOverLimit, and_assoc]
      · intro htime
        exact ⟨raw, hjson, (classifyInteractive_timeLimitExceeded_iff _ _ _).1 htime⟩
      · intro _ raw' hraw hbroken
        obtain rfl : raw = raw' := Option.some.inj (hjson.symm.trans hraw)
        have hanswer := (interactiveValidatorBroken_iff raw).1 hbroken
        by_cases hover : SolutionOverLimit raw.solution limits
        · rw [classifyInteractive_of_over raw limits memoryMib hover]
          exact ⟨by decide, by decide⟩
        · rw [classifyInteractive_of_not_answered raw limits memoryMib hover hanswer]
          exact ⟨by decide, by decide⟩

theorem fairVerdict_entry (judging : Judging) (case : TestCase × CaseOutcome) :
    FairVerdict judging.mode limits case.2
      (judging.entry rt limits memoryMib case).verdict := by
  cases judging with
  | default flags => exact fairVerdict_default rt limits memoryMib flags case
  | custom validator => exact fairVerdict_custom rt limits memoryMib validator case
  | interactive validator =>
      exact fairVerdict_interactive rt limits memoryMib validator case

/-! ## Over the whole list -/

variable (compile : CompileOutcome) (build : Except PyStr BuiltValidator)
variable (config : ProblemConfig) (options : JudgeOptions)

/-- A testcase that is judged gets a fair verdict. -/
def FairEntry (case : TestCase × CaseOutcome) (entry : TestCaseResult) : Prop :=
  FairVerdict config.validation limits case.2 entry.verdict

/-- The loop reaches the testcase at index `i`: nothing before it made it stop. -/
def Reaches (result : SolutionResult) (i : ℕ) : Prop :=
  options.judgeAll = true ∨ ∀ earlier ∈ result.testcases.take i, earlier.verdict = .accepted

/-- What is known of the entries of a returned result: each of them is fair or marks
its testcase as not run, and behind a successful compilation and validator build
every testcase that the loop reaches gets a fair one. -/
def AttributesFairly (cases : List (TestCase × CaseOutcome)) :
    PyM SolutionResult → Prop
  | .error _ => True
  | .ok result =>
      List.Forall₂
          (fun case entry => entry = notRunResult case.1 ∨
            FairEntry limits config case entry)
          cases result.testcases ∧
        (compile.ok = true →
          (config.validation = .default ∨ ∃ validator, build = .ok validator) →
            ∀ i case entry, cases[i]? = some case → result.testcases[i]? = some entry →
              Reaches options result i → FairEntry limits config case entry)

theorem forall₂_notRun (cases : List (TestCase × CaseOutcome)) :
    List.Forall₂
      (fun case entry => entry = notRunResult case.1 ∨
        FairEntry limits config case entry)
      cases (cases.map fun case => notRunResult case.1) := by
  rw [List.forall₂_map_right_iff]
  exact List.forall₂_same.2 fun _ _ => Or.inl rfl

theorem attributesFairly_judged (solution : Solution) (judging : Judging)
    (hmode : config.validation = judging.mode) (cases : List (TestCase × CaseOutcome)) :
    AttributesFairly limits compile build config options cases
      (.ok (judgedResult rt compile limits options solution cases judging)) := by
  have hfair : ∀ case, FairEntry limits config case
      (judging.entry rt limits options.memoryMib case) := by
    intro case
    rw [FairEntry, hmode]
    exact fairVerdict_entry rt limits options.memoryMib judging case
  simp only [AttributesFairly, Reaches, judgedResult, Judging.results, Judging.step]
  cases hjudgeAll : options.judgeAll with
  | true =>
      rw [foldl_scanStep_all, List.nil_append]
      constructor
      · rw [List.forall₂_map_right_iff]
        exact List.forall₂_same.2 fun case _ => Or.inr (hfair case)
      · intro _ _ i case entry hcase hentry _
        rw [List.getElem?_map, hcase, Option.map_some] at hentry
        rw [← Option.some.inj hentry]
        exact hfair case
  | false =>
      rw [foldl_scanStep_lazy, List.nil_append]
      constructor
      · apply (forall₂_lazyResults cases).imp
        intro case entry hentry
        apply hentry.imp_right
        intro hrun
        rw [hrun]
        exact hfair case
      · intro _ _ i case entry hcase hentry hreached
        have haccepted := hreached.resolve_left Bool.false_ne_true
        have hgood : ∀ earlier ∈ cases.take i,
            isAccepted (judging.entry rt limits options.memoryMib earlier) = true :=
          good_of_lazyResults_take cases i fun outcome houtcome =>
            decide_eq_true (haccepted outcome houtcome)
        rw [getElem?_lazyResults, hcase, Option.map_some, if_pos hgood] at hentry
        rw [← Option.some.inj hentry]
        exact hfair case

/-- Whatever the containers of the testcases left behind, `judge_solution` blames
the judging exactly when the judging is at fault. -/
theorem judgeSolution_attributes_fairly (solution : Solution)
    (cases : List (TestCase × CaseOutcome)) :
    AttributesFairly limits compile build config options cases
      (judgeSolution rt (outcomeCalls rt compile build) config solution cases limits
        options) := by
  rw [judgeSolution_outcome]
  have hjudged := attributesFairly_judged rt limits compile build config options solution
  cases hok : compile.ok with
  | false =>
      constructor
      · exact forall₂_notRun limits config cases
      · intro hcompiled
        exact absurd (hok.symm.trans hcompiled) Bool.false_ne_true
  | true =>
      rcases prepare_cases rt build config with
        ⟨exc, hprepare, -⟩ | ⟨exc, hprepare, hmode, hbuild⟩ | ⟨flags, hprepare, hmode, -⟩ |
        ⟨validator, hprepare, hmode, -, -⟩ | ⟨validator, hprepare, hmode, -, -⟩
      · rw [hprepare]
        trivial
      · rw [hprepare]
        constructor
        · exact forall₂_notRun limits config cases
        · intro _ hbuilt
          rcases hbuilt with hdefault | ⟨validator, hok'⟩
          · exact absurd hdefault hmode
          · cases hbuild.symm.trans hok'
      all_goals
        rw [hprepare]
        apply hjudged
        exact hmode

end IcpcVerify.Judge
