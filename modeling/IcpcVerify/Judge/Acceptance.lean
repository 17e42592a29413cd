import IcpcVerify.Judge.Outcomes

/-!
# When a solution is accepted

The verdict of a solution is a fold over its entries, and an entry is accepted
exactly when its containers gave every reason to accept it.  Together they give
the exact condition for an accepted solution, in every mode.
-/

namespace IcpcVerify.Judge

open IcpcVerify.Python
open IcpcVerify.Timelimits
open IcpcVerify.Results
open IcpcVerify.Runner
open IcpcVerify.Sandbox
open IcpcVerify.Compare
open IcpcVerify.Validators
open IcpcVerify.LazyScan

/-! ## The verdict of a list of entries -/

/-- An entry that makes `solution_verdict` stop. -/
def isRejected (entry : TestCaseResult) : Bool :=
  entry.verdict ≠ .notRun ∧ entry.verdict ≠ .accepted

/-- `solution_verdict` on a list that starts with a judged entry. -/
theorem solutionVerdict_cons {first : TestCaseResult} {rest : List TestCaseResult}
    (hfirst : first.verdict ≠ .notRun) :
    solutionVerdict (first :: rest) =
      match (first :: rest).find? isRejected with
      | some entry => entry.verdict
      | none => .accepted := by
  have hjudged : (first :: rest).filter (fun entry => decide (entry.verdict ≠ .notRun)) ≠
      [] := by
    simp [hfirst]
  rw [solutionVerdict, if_neg hjudged, List.find?_filter]
  congr 1
  congr 1
  funext entry
  simp [isRejected]

section Entries

variable {Item : Type*} {run skip : Item → TestCaseResult}
variable (hrun : ∀ item, (run item).verdict ≠ .notRun)
include hrun

/-- Stopping early does not change the verdict. -/
theorem solutionVerdict_lazyResults (items : List Item) :
    solutionVerdict (lazyResults run skip isAccepted items) =
      solutionVerdict (items.map run) := by
  have hfind : (lazyResults run skip isAccepted items).find? isRejected =
      (items.map run).find? isRejected :=
    find?_lazyResults (fun item => by simp [isRejected, isAccepted, hrun item]) items
  cases items with
  | nil => rfl
  | cons item items =>
      rw [lazyResults] at hfind ⊢
      rw [List.map_cons] at hfind ⊢
      rw [solutionVerdict_cons (hrun item), solutionVerdict_cons (hrun item), hfind]

theorem solutionVerdict_accepted_iff (items : List Item) :
    solutionVerdict (items.map run) = .accepted ↔
      items ≠ [] ∧ ∀ item ∈ items, (run item).verdict = .accepted := by
  cases items with
  | nil => simp [solutionVerdict]
  | cons item items =>
      rw [List.map_cons, solutionVerdict_cons (hrun item), ← List.map_cons]
      cases hfind : ((item :: items).map run).find? isRejected with
      | none =>
          apply iff_of_true rfl
          constructor
          · simp
          · intro item' hitem'
            have := List.find?_eq_none.1 hfind _ (List.mem_map_of_mem hitem')
            simpa [isRejected, hrun item'] using this
      | some entry =>
          have hrejected := List.find?_some hfind
          have hmem := List.mem_of_find?_eq_some hfind
          obtain ⟨item', hitem', rfl⟩ := List.mem_map.1 hmem
          have hverdict : (run item').verdict ≠ .accepted := by
            simpa [isRejected, hrun item'] using hrejected
          exact iff_of_false hverdict fun h => hverdict (h.2 item' hitem')

end Entries

/-! ## The verdict of one testcase -/

theorem customVerdict_ne_notRun (rt : Runtime) (o : ValidatorOutcome) :
    (o.verdict rt).1 ≠ .notRun := by
  rw [ValidatorOutcome.verdict, customVerdict_fst]
  rw [validatorVerdict]
  split_ifs <;> simp

theorem classifyRun_ne_notRun (m : RunMeasurement) (limits : TimeLimits)
    (compareOk : Bool) (compareMessage : PyStr) :
    (classifyRun m limits compareOk compareMessage).1 ≠ .notRun := by
  have := classifyRun_verdict m limits compareOk compareMessage
  intro hnotRun
  simp [hnotRun] at this

variable (rt : Runtime) (limits : TimeLimits) (memoryMib : ℤ)

/-- A judged testcase never looks like one that was skipped. -/
theorem entry_ne_notRun (judging : Judging) (case : TestCase × CaseOutcome) :
    (judging.entry rt limits memoryMib case).verdict ≠ .notRun := by
  cases judging with
  | interactive validator =>
      cases hjson : case.2.interactive.runJson with
      | none => simp [Judging.entry, hjson, missingResult]
      | some raw =>
          have := classifyInteractive_verdict raw limits memoryMib
          simp only [Judging.entry, hjson, interactiveResult]
          intro hnotRun
          simp [hnotRun] at this
  | default flags =>
      cases hjson : case.2.run.runJson with
      | none => simp [Judging.entry, hjson, missingResult]
      | some raw =>
          simp only [Judging.entry, hjson, measuredResult, Judging.classified]
          exact classifyRun_ne_notRun _ _ _ _
  | custom validator =>
      cases hjson : case.2.run.runJson with
      | none => simp [Judging.entry, hjson, missingResult]
      | some raw =>
          simp only [Judging.entry, hjson, measuredResult, Judging.classified]
          split
          · exact customVerdict_ne_notRun rt _
          · exact classifyRun_ne_notRun _ _ _ _

/-- The solution container reported a run within all limits that ended by itself
with status zero. -/
def CleanRun (o : RunOutcome) : Prop :=
  ∃ raw, o.runJson = some raw ∧ raw.timedOut = false ∧ raw.wall ≤ limits.limit ∧
    raw.outputLimitExceeded = false ∧ o.oomKilled = false ∧ raw.signal = 0 ∧
      raw.exitCode = 0

/-- The interactive container reported a run in which everything went well. -/
def CleanInteraction (o : InteractiveOutcome) : Prop :=
  ∃ raw, o.runJson = some raw ∧ raw.solution.timedOut = false ∧
    raw.solution.wall ≤ limits.limit ∧ raw.pairTimedOut = false ∧
      raw.validatorExit = 42 ∧ raw.solution.maxRssKib ≤ memoryMib * 1024 ∧
        (raw.solution.signal = sigpipe ∨
          (raw.solution.signal = 0 ∧ raw.solution.exitCode = 0))

/-- The outcome of a testcase gives every reason to accept it. -/
def AcceptedOutcome (config : ProblemConfig) (o : CaseOutcome) : Prop :=
  match config.validation with
  | .default =>
      CleanRun limits o.run ∧ ∃ flags,
        parseCompareFlags rt config.validatorFlags = .ok flags ∧
          (compareOutput rt (o.run.stdout.getD []) o.answer flags).1 = true
  | .custom =>
      CleanRun limits o.run ∧ o.validator.container.timedOut = false ∧
        o.validator.container.exitCode = 42
  | .customInteractive => CleanInteraction limits memoryMib o.interactive

theorem cleanRun_iff (o : RunOutcome) :
    CleanRun limits o ↔
      ∃ raw, o.runJson = some raw ∧ Healthy (measurementOf raw o.oomKilled) limits := by
  constructor
  · rintro ⟨raw, hjson, htimed, hwall, houtput, hmemory, hsignal, hexit⟩
    exact ⟨raw, hjson, ⟨htimed, hwall⟩, houtput, hmemory, hsignal, hexit⟩
  · rintro ⟨raw, hjson, ⟨htimed, hwall⟩, houtput, hmemory, hsignal, hexit⟩
    exact ⟨raw, hjson, htimed, hwall, houtput, hmemory, hsignal, hexit⟩

theorem customVerdict_accepted_iff (o : ValidatorOutcome) :
    (o.verdict rt).1 = .accepted ↔
      o.container.timedOut = false ∧ o.container.exitCode = 42 := by
  rw [ValidatorOutcome.verdict, customVerdict_fst]
  cases htimed : o.container.timedOut with
  | true => simp
  | false => simpa using validatorVerdict_accepted_iff o.container.exitCode

theorem entry_accepted_iff (judging : Judging) (case : TestCase × CaseOutcome) :
    (judging.entry rt limits memoryMib case).verdict = .accepted ↔
      match judging with
      | .default flags => CleanRun limits case.2.run ∧
          (compareOutput rt (case.2.run.stdout.getD []) case.2.answer flags).1 = true
      | .custom _ => CleanRun limits case.2.run ∧
          case.2.validator.container.timedOut = false ∧
            case.2.validator.container.exitCode = 42
      | .interactive _ => CleanInteraction limits memoryMib case.2.interactive := by
  cases judging with
  | default flags =>
      rw [cleanRun_iff]
      cases hjson : case.2.run.runJson with
      | none => simp [Judging.entry, hjson, missingResult]
      | some raw =>
          simp [Judging.entry, hjson, measuredResult, Judging.classified,
            classifyRun_accepted_iff]
  | custom validator =>
      rw [cleanRun_iff]
      cases hjson : case.2.run.runJson with
      | none => simp [Judging.entry, hjson, missingResult]
      | some raw =>
          simp only [Judging.entry, hjson, measuredResult, Judging.classified,
            Option.some.injEq, exists_eq_left']
          by_cases hhealthy : Healthy (measurementOf raw case.2.run.oomKilled) limits
          · rw [if_pos ((classifyRun_accepted_iff _ _ _ _).2 ⟨hhealthy, rfl⟩),
              customVerdict_accepted_iff]
            simp [hhealthy]
          · have hrejected : (classifyRun (measurementOf raw case.2.run.oomKilled) limits
                true []).1 ≠ .accepted := fun h =>
              hhealthy ((classifyRun_accepted_iff _ _ _ _).1 h).1
            rw [if_neg hrejected]
            exact iff_of_false hrejected fun h => hhealthy h.1
  | interactive validator =>
      cases hjson : case.2.interactive.runJson with
      | none => simp [Judging.entry, hjson, missingResult, CleanInteraction]
      | some raw =>
          simp only [Judging.entry, hjson, interactiveResult,
            classifyInteractive_accepted_iff, CleanInteraction, Option.some.injEq,
            exists_eq_left', SolutionOverLimit, EndedWell, not_or, not_lt,
            Bool.not_eq_true, and_assoc, gt_iff_lt]

/-! ## The verdict of a solution -/

variable (compile : CompileOutcome) (build : Except PyStr BuiltValidator)
variable (config : ProblemConfig) (options : JudgeOptions)

/-- The loop's verdict is that of the entries of all testcases, stopped or not. -/
theorem solutionVerdict_results (judging : Judging)
    (cases : List (TestCase × CaseOutcome)) :
    solutionVerdict (judging.results rt limits options cases) =
      solutionVerdict (cases.map (judging.entry rt limits options.memoryMib)) := by
  rw [Judging.results]
  rw [Judging.step]
  cases options.judgeAll with
  | true => rw [foldl_scanStep_all, List.nil_append]
  | false =>
      rw [foldl_scanStep_lazy, List.nil_append]
      exact solutionVerdict_lazyResults
        (entry_ne_notRun rt limits options.memoryMib judging) cases

theorem judgedResult_accepted_iff (solution : Solution) (judging : Judging)
    (cases : List (TestCase × CaseOutcome)) :
    (judgedResult rt compile limits options solution cases judging).verdict =
        .accepted ↔
      cases ≠ [] ∧ ∀ case ∈ cases,
        (judging.entry rt limits options.memoryMib case).verdict = .accepted := by
  rw [judgedResult, solutionVerdict_results]
  exact solutionVerdict_accepted_iff
    (entry_ne_notRun rt limits options.memoryMib judging) cases

/-- `judge_solution` returns the verdict accepted exactly when compilation
succeeded, the validator was built where the mode needs one, there is a testcase,
and every testcase's outcome gives every reason to accept it. -/
theorem judgeSolution_accepted_iff (solution : Solution)
    (cases : List (TestCase × CaseOutcome)) :
    (∃ result, judgeSolution rt (outcomeCalls rt compile build) config solution cases
        limits options = .ok result ∧ result.verdict = .accepted) ↔
      compile.ok = true ∧
        (config.validation ≠ .default →
          config.validatorDir.isSome = true ∧ ∃ validator, build = .ok validator) ∧
        cases ≠ [] ∧
        ∀ case ∈ cases,
          AcceptedOutcome rt limits options.memoryMib config case.2 := by
  rw [judgeSolution_outcome]
  cases hok : compile.ok with
  | false => simp [compileFailedResult]
  | true =>
      have hjudged := judgedResult_accepted_iff rt limits compile options solution
      rcases prepare_cases rt build config with
        ⟨exc, hprepare, hraised⟩ | ⟨exc, hprepare, hmode, hbuild⟩ |
        ⟨flags, hprepare, hmode, hflags⟩ | ⟨validator, hprepare, hmode, hdir, hbuild⟩ |
        ⟨validator, hprepare, hmode, hdir, hbuild⟩
      · -- an exception: no case can be compared, or there is no validator directory
        apply iff_of_false (by simp [hprepare])
        rintro ⟨-, hvalidator, hne, hall⟩
        rcases hraised with ⟨hmode, hflags⟩ | ⟨hmode, hdir⟩
        · obtain ⟨case, hcase⟩ := List.exists_mem_of_ne_nil cases hne
          have haccepted := hall case hcase
          simp [AcceptedOutcome, hmode, hflags] at haccepted
        · have := (hvalidator hmode).1
          simp [hdir] at this
      · apply iff_of_false (by simp [hprepare, validatorFailedResult])
        rintro ⟨-, hvalidator, -, -⟩
        obtain ⟨validator, hok'⟩ := (hvalidator hmode).2
        cases hbuild.symm.trans hok'
      · simp [hprepare, hjudged, hmode, entry_accepted_iff, AcceptedOutcome, hflags]
      · rw [hprepare]
        simp [hjudged, hmode, entry_accepted_iff, AcceptedOutcome, hdir, hbuild]
      · rw [hprepare]
        simp [hjudged, hmode, entry_accepted_iff, AcceptedOutcome, hdir, hbuild]

end IcpcVerify.Judge
