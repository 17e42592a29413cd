import IcpcVerify.Judge.Acceptance

/-!
# Lazy judging agrees with full judging

With `judge_all` off the loop stops running testcases at the first one that is
not accepted.  Nothing but the entries behind it may change.
-/

namespace IcpcVerify.Judge

open IcpcVerify.Python
open IcpcVerify.Timelimits
open IcpcVerify.Results
open IcpcVerify.Sandbox
open IcpcVerify.LazyScan

/-- How the result of lazy judging relates to that of full judging. -/
structure LazyAgreement (cases : List TestCase) (lazy full : SolutionResult) : Prop where
  verdict : lazy.verdict = full.verdict
  lazy_labels : lazy.testcases.map (fun entry => (entry.id, entry.group)) =
    cases.map fun case => (case.id, case.group)
  full_labels : full.testcases.map (fun entry => (entry.id, entry.group)) =
    cases.map fun case => (case.id, case.group)
  /-- Up to and including the first entry that is not accepted. -/
  head : ∀ i : ℕ, (∀ entry ∈ full.testcases.take i, entry.verdict = .accepted) →
    lazy.testcases[i]? = full.testcases[i]?
  /-- Behind the first entry that is not accepted. -/
  tail : ∀ i : ℕ, (∃ entry ∈ full.testcases.take i, entry.verdict ≠ .accepted) →
    lazy.testcases[i]? = cases[i]?.map notRunResult

/-- Nothing was run: one skipped entry for each testcase. -/
def NothingRun (cases : List TestCase) (result : SolutionResult) : Prop :=
  result.testcases = cases.map notRunResult

/-- Two results with the same verdict in which nothing was run agree. -/
theorem lazyAgreement_of_nothingRun {cases : List TestCase}
    {lazy full : SolutionResult} (hverdict : lazy.verdict = full.verdict)
    (hlazy : NothingRun cases lazy) (hfull : NothingRun cases full) :
    LazyAgreement cases lazy full := by
  have hlabels : ∀ result, NothingRun cases result →
      result.testcases.map (fun entry => (entry.id, entry.group)) =
        cases.map fun case => (case.id, case.group) := by
    intro result hresult
    rw [hresult, List.map_map]
    rfl
  refine ⟨hverdict, hlabels lazy hlazy, hlabels full hfull, ?_, ?_⟩
  · intro i _
    rw [hlazy, hfull]
  · intro i _
    rw [hlazy, List.getElem?_map]

section Entries

variable (run : TestCase × CaseOutcome → TestCaseResult)

/-- The stopping loop against the loop over everything. -/
theorem lazyAgreement_of_scan {cases : List (TestCase × CaseOutcome)}
    {lazy full : SolutionResult} (hverdict : lazy.verdict = full.verdict)
    (hlabel : ∀ case, (run case).id = case.1.id ∧ (run case).group = case.1.group)
    (hlazy : lazy.testcases =
      lazyResults run (fun case => notRunResult case.1) isAccepted cases)
    (hfull : full.testcases = cases.map run) :
    LazyAgreement (cases.map Prod.fst) lazy full := by
  have hrun : (cases.map run).map (fun entry => (entry.id, entry.group)) =
      (cases.map Prod.fst).map fun case => (case.id, case.group) := by
    rw [List.map_map, List.map_map]
    exact List.map_congr_left fun case _ =>
      Prod.ext (hlabel case).1 (hlabel case).2
  refine ⟨hverdict, ?_, ?_, ?_, ?_⟩
  · rw [hlazy, map_lazyResults, hrun]
    intro case
    exact Prod.ext (hlabel case).1.symm (hlabel case).2.symm
  · rw [hfull, hrun]
  · intro i haccepted
    rw [hfull, ← List.map_take] at haccepted
    rw [hlazy, hfull, getElem?_lazyResults, List.getElem?_map]
    congr 1
    funext case
    rw [if_pos]
    intro earlier hearlier
    simpa [isAccepted] using haccepted _ (List.mem_map_of_mem hearlier)
  · rintro i ⟨entry, hentry, hrejected⟩
    rw [hfull, ← List.map_take] at hentry
    obtain ⟨earlier, hearlier, rfl⟩ := List.mem_map.1 hentry
    rw [hlazy, getElem?_lazyResults, List.getElem?_map, Option.map_map]
    congr 1
    funext case
    rw [if_neg]
    · rfl
    · intro hall
      exact hrejected (by simpa [isAccepted] using hall earlier hearlier)

end Entries

/-- An entry carries the id and the group of its testcase. -/
theorem entry_label (rt : Runtime) (limits : TimeLimits) (memoryMib : ℤ)
    (judging : Judging) (case : TestCase × CaseOutcome) :
    (judging.entry rt limits memoryMib case).id = case.1.id ∧
      (judging.entry rt limits memoryMib case).group = case.1.group := by
  cases judging with
  | interactive validator =>
      cases hjson : case.2.interactive.runJson <;>
        simp [Judging.entry, hjson, missingResult, interactiveResult]
  | _ =>
      cases hjson : case.2.run.runJson <;>
        simp [Judging.entry, hjson, missingResult, measuredResult]

variable (rt : Runtime) (compile : CompileOutcome) (build : Except PyStr BuiltValidator)
variable (config : ProblemConfig) (limits : TimeLimits) (options : JudgeOptions)

theorem judgedResult_lazyAgreement (solution : Solution) (judging : Judging)
    (cases : List (TestCase × CaseOutcome)) :
    LazyAgreement (cases.map Prod.fst)
      (judgedResult rt compile limits { options with judgeAll := false } solution cases
        judging)
      (judgedResult rt compile limits { options with judgeAll := true } solution cases
        judging) := by
  apply lazyAgreement_of_scan (judging.entry rt limits options.memoryMib)
  · simp only [judgedResult, solutionVerdict_results]
  · exact entry_label rt limits options.memoryMib judging
  · exact foldl_scanStep_lazy cases []
  · exact foldl_scanStep_all cases []

/-- What lazy judging and full judging of the same outcomes come to together. -/
def AgreesLazily (cases : List TestCase) : PyM SolutionResult → PyM SolutionResult → Prop
  | .ok lazy, .ok full =>
      LazyAgreement cases lazy full ∧
        (compile.ok = false →
          NothingRun cases lazy ∧ NothingRun cases full ∧
            lazy.verdict = .compilerError ∧ full.verdict = .compilerError) ∧
        ∀ exc, compile.ok = true → config.validation ≠ .default → build = .error exc →
          NothingRun cases lazy ∧ NothingRun cases full ∧
            lazy.verdict = .judgeError ∧ full.verdict = .judgeError
  | .error exc, .error exc' => exc = exc'
  | _, _ => False

/-- Judging with and without the early stop: the same verdict, the same labels,
the same entries up to and including the first one that is not accepted, and
skipped entries behind it; both raise, or neither does. -/
theorem judgeSolution_lazy_agrees (solution : Solution)
    (cases : List (TestCase × CaseOutcome)) :
    AgreesLazily compile build config (cases.map Prod.fst)
      (judgeSolution rt (outcomeCalls rt compile build) config solution cases limits
        { options with judgeAll := false })
      (judgeSolution rt (outcomeCalls rt compile build) config solution cases limits
        { options with judgeAll := true }) := by
  rw [judgeSolution_outcome, judgeSolution_outcome]
  have hnothing : ∀ result : SolutionResult,
      result.testcases = cases.map (fun case => notRunResult case.1) →
        NothingRun (cases.map Prod.fst) result := by
    intro result hresult
    rw [NothingRun, hresult, List.map_map]
    rfl
  cases hok : compile.ok with
  | false =>
      have hlazy := hnothing (compileFailedResult compile { options with judgeAll := false }
        solution cases) rfl
      have hfull := hnothing (compileFailedResult compile { options with judgeAll := true }
        solution cases) rfl
      constructor
      · exact lazyAgreement_of_nothingRun rfl hlazy hfull
      · constructor
        · intro _
          exact ⟨hlazy, hfull, rfl, rfl⟩
        · intro exc hcompiled
          exact absurd (hok.symm.trans hcompiled) Bool.false_ne_true
  | true =>
      have hagree := fun judging =>
        judgedResult_lazyAgreement rt compile limits options solution judging cases
      rcases prepare_cases rt build config with
        ⟨exc, hprepare, -⟩ | ⟨exc, hprepare, -, -⟩ | ⟨flags, hprepare, hmode, -⟩ |
        ⟨validator, hprepare, -, -, hbuild⟩ | ⟨validator, hprepare, -, -, hbuild⟩
      · rw [hprepare]
        rfl
      · have hlazy := hnothing (validatorFailedResult compile
          { options with judgeAll := false } solution cases exc) rfl
        have hfull := hnothing (validatorFailedResult compile
          { options with judgeAll := true } solution cases exc) rfl
        rw [hprepare]
        refine ⟨lazyAgreement_of_nothingRun rfl hlazy hfull, fun h => ?_, fun _ _ _ _ => ?_⟩
        · exact absurd (h.symm.trans hok) Bool.false_ne_true
        · exact ⟨hlazy, hfull, rfl, rfl⟩
      · rw [hprepare]
        refine ⟨hagree _, fun h => ?_, fun _ _ hmode' _ => absurd hmode hmode'⟩
        exact absurd (h.symm.trans hok) Bool.false_ne_true
      all_goals
        rw [hprepare]
        refine ⟨hagree _, fun h => ?_, fun _ _ _ hbuild' => ?_⟩
        · exact absurd (h.symm.trans hok) Bool.false_ne_true
        · cases hbuild.symm.trans hbuild'

end IcpcVerify.Judge
