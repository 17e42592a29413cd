import IcpcVerify.Judge.FileOutcomes

/-!
# No stale state

A testcase that is judged without an exception is judged on what its own containers
left behind.  Judging over files therefore comes to judging over outcomes, for one
testcase and for the whole solution.
-/

namespace IcpcVerify.Judge

open IcpcVerify.Python
open IcpcVerify.Timelimits
open IcpcVerify.Results
open IcpcVerify.Runner
open IcpcVerify.Sandbox
open IcpcVerify.StatefulRun
open IcpcVerify.LazyScan

section Refinement

variable {rt : Runtime} {host : Host} {removal : Removal} {case : TestCase}
variable {before after : World} {session : Session}
variable {progress progress' : Progress TestCaseResult}
variable (compile : CompileOutcome) (build : Except PyStr BuiltValidator)

theorem judgeInteractiveCase_returns
    (hreturns : Returns (judgeInteractiveCase (fileCalls rt host removal) session progress
      case) before progress' after) :
    judgeInteractiveCase (outcomeCalls rt compile build) session progress
      (case, observed rt host case session) = .ok progress' := by
  cases hvalidator : session.validator with
  | none =>
      simp only [judgeInteractiveCase, hvalidator] at hreturns
      exact absurd hreturns (returns_throw _ _)
  | some validator =>
      simp only [judgeInteractiveCase, hvalidator, returns_bind] at hreturns
      obtain ⟨report, between, hreport, hrest⟩ := hreturns
      obtain ⟨rfl, hmessage⟩ := runInteractiveTestcase_returns hreport
      have hinteractive : (observed rt host case session).interactive =
          observedInteractive rt host case session.runArgv validator session.config
            session.limits session.options := by
        simp [observed, hvalidator]
      rw [← hinteractive] at hrest hmessage
      cases hjson : (observed rt host case session).interactive.runJson with
      | none =>
          simp only [InteractiveOutcome.report, hjson, returns_pure] at hrest
          obtain ⟨rfl, -⟩ := hrest
          simp [judgeInteractiveCase, hvalidator, outcomeCalls, fileCalls,
            InteractiveOutcome.report, hjson, bind, Except.bind, pure, Except.pure]
      | some raw =>
          simp only [InteractiveOutcome.report, hjson, returns_bind, returns_pure] at hrest
          obtain ⟨message, _, hread, rfl, -⟩ := hrest
          obtain ⟨rfl, -⟩ := readFeedback_returns hread
          simp [judgeInteractiveCase, hvalidator, outcomeCalls, fileCalls,
            InteractiveOutcome.report, hjson, hmessage, bind, Except.bind, pure, Except.pure]

theorem classifyMeasured_returns {measurement : RunMeasurement} {report : RunReport}
    {classified : Verdict × PyStr}
    (hpath : report.teamOutputPath = teamOutputFile)
    (hteam : (before.store .out).bind (fun dir => fileIn dir (py "stdout")) =
      some ((observed rt host case session).run.stdout.getD []))
    (hreturns : Returns (classifyMeasured rt (fileCalls rt host removal) session case
      measurement report) before classified after) :
    classifyMeasured rt (outcomeCalls rt compile build) session
      (case, observed rt host case session) measurement report = .ok classified := by
  cases hvalidator : session.validator with
  | some built =>
      simp only [classifyMeasured, hvalidator] at hreturns ⊢
      split at hreturns
      · next haccepted =>
        rw [if_pos haccepted]
        have hverdict : (observed rt host case session).validator =
            observedValidator rt host case built
              ((observed rt host case session).run.stdout.getD [])
              session.config.validatorFlags session.options.image session.options.cpuset
              (session.limits.hardKill + 30) := by
          simp [observed, hvalidator]
        simp only [fileCalls, hpath] at hreturns
        rw [runCustomValidator_returns hteam hreturns, ← hverdict]
        rfl
      · next hrejected =>
        rw [if_neg hrejected]
        simp only [returns_pure] at hreturns
        rw [hreturns.1]
        rfl
  | none =>
      simp only [classifyMeasured, hvalidator, returns_bind] at hreturns ⊢
      obtain ⟨answer, between, hanswer, hrest⟩ := hreturns
      have hread : (observed rt host case session).answer = answer := by
        cases hanswerFile : host.read case.answerPath with
        | none =>
            simp only [fileCalls, hanswerFile] at hanswer
            exact absurd hanswer (returns_throw _ _)
        | some content =>
            simp only [fileCalls, hanswerFile, returns_pure] at hanswer
            simp [observed, hanswerFile, hanswer.1]
      cases hflags : session.compareFlags with
      | none =>
          simp only [hflags] at hrest
          exact absurd hrest (returns_throw _ _)
      | some flags =>
          simp only [hflags, returns_pure] at hrest
          obtain ⟨rfl, -⟩ := hrest
          simp [outcomeCalls, hread, bind, Except.bind, pure, Except.pure]

theorem judgeMeasuredCase_returns
    (hreturns : Returns (judgeMeasuredCase rt (fileCalls rt host removal) session progress
      case) before progress' after) :
    judgeMeasuredCase rt (outcomeCalls rt compile build) session progress
      (case, observed rt host case session) = .ok progress' := by
  simp only [judgeMeasuredCase, returns_bind] at hreturns
  obtain ⟨report, between, hreport, hrest⟩ := hreturns
  obtain ⟨hreport', hteam⟩ := runOneTestcase_returns hreport
  have hrun : report = (observed rt host case session).run.report rt := hreport'
  have hcall : (outcomeCalls rt compile build).runOneTestcase
      (case, observed rt host case session) session.runArgv session.limits
        session.options = .ok report := by
    rw [hrun]
    rfl
  cases hmeasurement : report.measurement with
  | none =>
      simp only [hmeasurement, returns_pure] at hrest
      obtain ⟨rfl, -⟩ := hrest
      simp only [judgeMeasuredCase, hcall, hmeasurement, bind, Except.bind]
      rfl
  | some measurement =>
      simp only [hmeasurement, returns_bind, returns_pure] at hrest
      obtain ⟨classified, _, hclassified, rfl, -⟩ := hrest
      have hpath : report.teamOutputPath = teamOutputFile := by
        rw [hrun, RunOutcome.report]
        split <;> rfl
      have hclassified' := classifyMeasured_returns compile build hpath
        (hteam (by rw [hmeasurement]; rfl)) hclassified
      simp only [judgeMeasuredCase, hcall, hmeasurement, hclassified', bind, Except.bind]
      rfl

/-- A round of the loop over files that returns is the round over the outcomes its
own containers had. -/
theorem judgeStep_returns
    (hreturns : Returns (judgeStep rt (fileCalls rt host removal) session progress case)
      before progress' after) :
    judgeStep rt (outcomeCalls rt compile build) session progress
      (case, observed rt host case session) = .ok progress' := by
  rw [judgeStep] at hreturns ⊢
  split at hreturns
  · next hstopped =>
    rw [if_pos hstopped]
    simp only [returns_pure] at hreturns
    rw [← hreturns.1]
    rfl
  · next hrunning =>
    rw [if_neg hrunning]
    split at hreturns
    · next hmode =>
      rw [if_pos hmode]
      exact judgeInteractiveCase_returns compile build hreturns
    · next hmode =>
      rw [if_neg hmode]
      exact judgeMeasuredCase_returns compile build hreturns

/-- The container of the mode left no `run.json`. -/
def NoRecord (mode : ValidationMode) (o : CaseOutcome) : Prop :=
  if mode = .customInteractive then o.interactive.runJson = none else o.run.runJson = none

/-- A round whose container left no record ends in a `judge_error`. -/
theorem judgeStep_of_noRecord {o : CaseOutcome} (hrunning : progress.stopped = false)
    (hmissing : NoRecord session.config.validation o)
    (hstep : judgeStep rt (outcomeCalls rt compile build) session progress (case, o) =
      .ok progress') :
    ∃ message, progress'.results = progress.results ++ [missingResult case message] := by
  rw [judgeStep, if_neg (by rw [hrunning]; exact Bool.false_ne_true)] at hstep
  by_cases hmode : session.config.validation = .customInteractive
  · rw [NoRecord, if_pos hmode] at hmissing
    rw [if_pos hmode, judgeInteractiveCase] at hstep
    cases hvalidator : session.validator with
    | none =>
        rw [hvalidator] at hstep
        cases hstep
    | some validator =>
        rw [hvalidator] at hstep
        simp [outcomeCalls, InteractiveOutcome.report, hmissing, bind, Except.bind, pure,
          Except.pure] at hstep
        exact ⟨_, by rw [← hstep]⟩
  · rw [NoRecord, if_neg hmode] at hmissing
    rw [if_neg hmode, judgeMeasuredCase] at hstep
    simp [outcomeCalls, RunOutcome.report, hmissing, bind, Except.bind, pure,
      Except.pure] at hstep
    exact ⟨_, by rw [← hstep]⟩

/-- Whatever two stores hold when a testcase is judged, and however much of them the
cleaning leaves behind: where judging returns from both, it comes to the same.  It
comes to what the testcase's own containers left on fresh directories, and to a
`judge_error` if they left no record. -/
theorem judgeStep_no_stale_state {removal' : Removal} {world world' : World}
    {first second : Progress TestCaseResult} {after' : World}
    (hfirst : Returns (judgeStep rt (fileCalls rt host removal) session progress case)
      world first after)
    (hsecond : Returns (judgeStep rt (fileCalls rt host removal') session progress case)
      world' second after') :
    first = second ∧
      judgeStep rt (outcomeCalls rt compile build) session progress
          (case, observed rt host case session) = .ok first ∧
        (progress.stopped = false →
          NoRecord session.config.validation (observed rt host case session) →
            ∃ message, first.results = progress.results ++ [missingResult case message]) := by
  have hmirror := judgeStep_returns compile build hfirst
  have hmirror' := judgeStep_returns compile build hsecond
  have hsame : first = second := Except.ok.inj (hmirror.symm.trans hmirror')
  constructor
  · exact hsame
  · constructor
    · exact hmirror
    · intro hrunning hmissing
      exact judgeStep_of_noRecord compile build hrunning hmissing hmirror

/-- A host whose containers leave nothing behind. -/
def silentHost : Host where
  read _ := some []
  sandbox _ _ := .ok (⟨125, false, [], [], false⟩, fun _ => emptyDir)
  loadRun _ := .ok ⟨0, 0, 0, 0, 0, false, false⟩
  loadInteractive _ := .ok ⟨⟨0, 0, 0, 0, 0, false⟩, 42, 0, false⟩
  compile _ _ _ := .ok ⟨true, [], []⟩
  build _ _ _ := .ok (.error [])

/-- A store in which an earlier testcase left a good `run.json`. -/
def dirtyStore : IoStore
  | .out => some (put emptyDir (py "run.json") [0x7B, 0x7D])
  | _ => none

/-- A session in default mode, one second per testcase. -/
def plainSession : Session where
  config := ⟨[], 1, 2048, 1, .default, [], none, []⟩
  runArgv := [py "/work/bin"]
  validator := none
  compareFlags := some Compare.CompareFlags.initial
  limits := ⟨1, 1, 2⟩
  options := ⟨[], 0, false, 8, 2048, [], 1, false, []⟩

/-- One round of that session. -/
def silentRound (removal : Removal) : IoM (Progress TestCaseResult) :=
  judgeStep Runtime.ascii (fileCalls Runtime.ascii silentHost removal) plainSession
    ⟨[], false⟩ ⟨[], [], [], []⟩

/-- The `run.json` of the earlier testcase is not read when the container wrote
none: the store that has it and the empty one both give a `judge_error`. -/
theorem judgeStep_no_stale_state_dirty :
    ∃ first after second after',
      Returns (silentRound fun _ _ _ => none) ⟨dirtyStore, 0⟩ first after ∧
        Returns (silentRound fun _ _ dir => some dir) ⟨fun _ => none, 0⟩ second after' ∧
        first = second ∧ first.results.map TestCaseResult.verdict = [.judgeError] := by
  obtain ⟨first, after, hfirst, hverdict⟩ : ∃ first after,
      Returns (silentRound fun _ _ _ => none) ⟨dirtyStore, 0⟩ first after ∧
        first.results.map TestCaseResult.verdict = [.judgeError] := ⟨_, _, rfl, rfl⟩
  obtain ⟨second, after', hsecond⟩ : ∃ second after',
      Returns (silentRound fun _ _ dir => some dir) ⟨fun _ => none, 0⟩ second after' :=
    ⟨_, _, rfl⟩
  have hsame := judgeStep_no_stale_state ⟨true, [], []⟩ (.error []) hfirst hsecond
  exact ⟨first, after, second, after', hfirst, hsecond, hsame.1, hverdict⟩

/-! ## Whole solutions -/

theorem prepareValidator_returns {config : ProblemConfig} {options : JudgeOptions}
    {prepared : Except PyStr (Option BuiltValidator)}
    (hreturns : Returns (prepareValidator (fileCalls rt host removal) config options)
      before prepared after) :
    ∃ build, prepareValidator (outcomeCalls rt compile build) config options =
      .ok prepared := by
  rw [prepareValidator] at hreturns
  split at hreturns
  · next hmode =>
    cases hdir : config.validatorDir with
    | none =>
        simp only [hdir] at hreturns
        exact absurd hreturns (returns_throw _ _)
    | some dir =>
        simp only [hdir, returns_bind, returns_pure] at hreturns
        obtain ⟨built, _, -, rfl, -⟩ := hreturns
        refine ⟨built, ?_⟩
        rw [prepareValidator, if_pos hmode, hdir]
        rfl
  · next hmode =>
    simp only [returns_pure] at hreturns
    refine ⟨.error [], ?_⟩
    rw [prepareValidator, if_neg hmode, ← hreturns.1]
    rfl

theorem prepareCompareFlags_returns {config : ProblemConfig}
    {flags : Option Compare.CompareFlags}
    (hreturns : Returns (prepareCompareFlags (m := IoM) rt config) before flags after) :
    prepareCompareFlags (m := PyM) rt config = .ok flags := by
  rw [prepareCompareFlags] at hreturns ⊢
  split at hreturns
  · next hmode =>
    rw [if_pos hmode]
    cases hparse : Compare.parseCompareFlags rt config.validatorFlags with
    | error exc =>
        simp only [hparse] at hreturns
        exact absurd hreturns (returns_throw _ _)
    | ok parsed =>
        simp only [hparse, returns_pure] at hreturns
        rw [← hreturns.1]
        rfl
  · next hmode =>
    simp only [returns_pure] at hreturns
    rw [if_neg hmode, ← hreturns.1]
    rfl

/-- Judging a solution over files refines judging it over outcomes: what it returns
is what the outcome of each testcase, taken by itself, comes to. -/
theorem judgeSolution_returns {config : ProblemConfig} {solution : Solution}
    {testcases : List TestCase} {limits : TimeLimits} {options : JudgeOptions}
    {result : SolutionResult}
    (hreturns : Returns (judgeSolution rt (fileCalls rt host removal) config solution
      testcases limits options) before result after) :
    ∃ compile build, ∃ outcome : TestCase → CaseOutcome,
      judgeSolution rt (outcomeCalls rt compile build) config solution
        (testcases.map fun case => (case, outcome case)) limits options = .ok result := by
  simp only [judgeSolution, returns_bind] at hreturns
  obtain ⟨compile, _, -, hrest⟩ := hreturns
  have hlabels : ∀ outcome : TestCase → CaseOutcome,
      (testcases.map fun case => (case, outcome case)).map
          (fun case => notRunResult case.1) =
        testcases.map notRunResult := by
    intro outcome
    rw [List.map_map]
    rfl
  refine ⟨compile, ?_⟩
  split at hrest
  · next hfailed =>
    simp only [returns_pure] at hrest
    let build : Except PyStr BuiltValidator := .error []
    let session : Session := ⟨config, compile.runArgv, none, none, limits, options⟩
    refine ⟨build, fun case => observed rt host case session, ?_⟩
    rw [← hrest.1]
    simp only [judgeSolution, outcomeCalls, bind, Except.bind, hfailed, if_true, hlabels]
    rfl
  · next hcompiled =>
    simp only [returns_bind] at hrest
    obtain ⟨prepared, _, hprepared, hrest⟩ := hrest
    obtain ⟨build, hbuild⟩ := prepareValidator_returns compile hprepared
    refine ⟨build, ?_⟩
    have hcompile : ∀ options', (outcomeCalls rt compile build).compileSolution solution
        config.memoryMib options' = .ok compile := fun _ => rfl
    cases prepared with
    | error exc =>
        simp only [returns_pure] at hrest
        let session : Session := ⟨config, compile.runArgv, none, none, limits, options⟩
        refine ⟨fun case => observed rt host case session, ?_⟩
        rw [← hrest.1]
        simp only [judgeSolution, hcompile, hbuild, bind, Except.bind, hcompiled]
        simp only [outcomeCalls, hlabels]
        rfl
    | ok validator =>
        simp only [returns_bind, returns_pure] at hrest
        obtain ⟨flags, _, hflags, progress, _, hloop, rfl, -⟩ := hrest
        have hflags' := prepareCompareFlags_returns hflags
        obtain ⟨session, hsession⟩ : ∃ session : Session,
          session = ⟨config, compile.runArgv, validator, flags, limits, options⟩ := ⟨_, rfl⟩
        rw [← hsession] at hloop
        have hloop' := foldlM_of_returns (judgeStep rt (outcomeCalls rt compile build) session)
          (fun case => (case, observed rt host case session))
          (fun _ _ _ _ _ hstep => judgeStep_returns compile build hstep) testcases hloop
        refine ⟨fun case => observed rt host case session, ?_⟩
        simp only [judgeSolution, hcompile, hbuild, hflags', ← hsession, hloop', bind,
          Except.bind, hcompiled]
        rfl

end Refinement

end IcpcVerify.Judge
