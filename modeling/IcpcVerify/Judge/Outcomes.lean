import IcpcVerify.Judge.Solution

/-!
# Judging over outcomes

The outcome of every container is taken as an arbitrary input, one for each
testcase.  `judge_solution` read over outcomes is then a plain function: it
either stops before the loop, or scans the testcases with the early stop of
`LazyScan`.
-/

namespace IcpcVerify.Judge

open IcpcVerify.Python
open IcpcVerify.Timelimits
open IcpcVerify.Results
open IcpcVerify.Runner
open IcpcVerify.Sandbox
open IcpcVerify.Compare
open IcpcVerify.Validators
open IcpcVerify.LazyScan

/-- What the solution container of a default or custom testcase leaves behind. -/
structure RunOutcome where
  runJson : Option RunRecord
  oomKilled : Bool
  stdout : Option Bytes
  stderr : Option Bytes
  dockerStderr : Bytes

/-- What a validator container leaves behind. -/
structure ValidatorOutcome where
  container : SandboxResult
  judgemessage : Option Bytes

/-- What the container of an interactive testcase leaves behind. -/
structure InteractiveOutcome where
  runJson : Option InteractiveRecord
  oomKilled : Bool
  solStderr : Option Bytes
  valStderr : Option Bytes
  judgemessage : Option Bytes
  dockerStderr : Bytes

/-- Outcome of everything that can be started for one testcase; each mode looks
at its own part. -/
structure CaseOutcome where
  run : RunOutcome
  validator : ValidatorOutcome
  interactive : InteractiveOutcome
  answer : Bytes

section Reports

variable (rt : Runtime)

/-- `_describe_missing_run_result`. -/
def describeMissingRunResult (sandboxStderr : Bytes) : PyStr :=
  let detail := strip (rt.decodeReplace (sandboxStderr.take stderrKeepBytes))
  let message :=
    py "run.json 을 만들지 못했습니다 (container 가 끝까지 실행되지 않았습니다)"
  if detail = [] then message else message ++ py "\nstderr: " ++ detail

/-- `_read_stderr_tail`, given the file if it is there. -/
def readStderrTail (file : Option Bytes) : PyStr :=
  match file with
  | none => []
  | some data => rt.decodeReplace (data.take stderrKeepBytes)

def measurementOf (raw : RunRecord) (oomKilled : Bool) : RunMeasurement where
  wall := raw.wall
  cpu := raw.cpu
  maxRssKib := raw.maxRssKib
  exitCode := raw.exitCode
  signal := raw.signal
  timedOut := raw.timedOut
  outputLimitExceeded := raw.outputLimitExceeded
  oomKilled := oomKilled

def teamOutputFile : IoFile := ⟨.out, py "stdout"⟩

def RunOutcome.report (o : RunOutcome) : RunReport :=
  match o.runJson with
  | none => ⟨none, [], teamOutputFile, describeMissingRunResult rt o.dockerStderr⟩
  | some raw =>
      ⟨some (measurementOf raw o.oomKilled), o.stdout.getD [], teamOutputFile,
        readStderrTail rt o.stderr⟩

/-- The note appended when the whole container was out of memory. -/
def missingInteractiveMessage (dockerStderr : Bytes) (oomKilled : Bool) : PyStr :=
  let message := describeMissingRunResult rt dockerStderr
  if oomKilled then
    message ++
      py "\ncontainer 가 OOMKilled 되었습니다 (누가 죽었는지는 구분할 수 없습니다)"
  else message

def InteractiveOutcome.report (o : InteractiveOutcome) : InteractiveReport :=
  match o.runJson with
  | none =>
      ⟨none, .feedback, missingInteractiveMessage rt o.dockerStderr o.oomKilled, [], []⟩
  | some raw =>
      ⟨some raw, .feedback, [], readStderrTail rt o.solStderr,
        readStderrTail rt o.valStderr⟩

def ValidatorOutcome.verdict (o : ValidatorOutcome) : Verdict × PyStr :=
  customVerdict rt o.container (readJudgemessage rt o.judgemessage)

end Reports

/-- The calls of `judge_solution`, answered from given outcomes. -/
def outcomeCalls (rt : Runtime) (compile : CompileOutcome)
    (build : Except PyStr BuiltValidator) :
    Calls PyM (TestCase × CaseOutcome) where
  testcase := Prod.fst
  compileSolution _ _ _ := .ok compile
  buildValidator _ _ _ := .ok build
  runOneTestcase case _ _ _ := .ok (case.2.run.report rt)
  runInteractiveTestcase case _ _ _ _ _ := .ok (case.2.interactive.report rt)
  readJudgemessage case _ := .ok (readJudgemessage rt case.2.interactive.judgemessage)
  runCustomValidator case _ _ _ _ _ _ _ := .ok (case.2.validator.verdict rt)
  readAnswer case := .ok case.2.answer

/-- What `judge_solution` has at hand when its loop starts, by mode. -/
inductive Judging where
  | default (flags : CompareFlags)
  | custom (validator : BuiltValidator)
  | interactive (validator : BuiltValidator)

namespace Judging

def validator : Judging → Option BuiltValidator
  | default _ => none
  | custom validator => some validator
  | interactive validator => some validator

def compareFlags : Judging → Option CompareFlags
  | default flags => some flags
  | custom _ => none
  | interactive _ => none

def mode : Judging → ValidationMode
  | default _ => .default
  | custom _ => .custom
  | interactive _ => .customInteractive

/-- Verdict and message of a measured run. -/
def classified (rt : Runtime) (judging : Judging) (limits : TimeLimits)
    (measurement : RunMeasurement) (o : CaseOutcome) : Verdict × PyStr :=
  match judging with
  | default flags =>
      let compared := compareOutput rt (o.run.stdout.getD []) o.answer flags
      classifyRun measurement limits compared.1 compared.2
  | _ =>
      let classified := classifyRun measurement limits true []
      if classified.1 = .accepted then o.validator.verdict rt else classified

/-- Entry of a testcase that is judged. -/
def entry (rt : Runtime) (judging : Judging) (limits : TimeLimits) (memoryMib : ℤ)
    (case : TestCase × CaseOutcome) : TestCaseResult :=
  let o := case.2
  match judging with
  | interactive _ =>
      match o.interactive.runJson with
      | none => missingResult case.1
          (missingInteractiveMessage rt o.interactive.dockerStderr o.interactive.oomKilled)
      | some raw => interactiveResult case.1 raw limits memoryMib
          (readJudgemessage rt o.interactive.judgemessage)
          (readStderrTail rt o.interactive.solStderr)
          (readStderrTail rt o.interactive.valStderr)
  | _ =>
      match o.run.runJson with
      | none => missingResult case.1 (describeMissingRunResult rt o.run.dockerStderr)
      | some raw =>
          let measurement := measurementOf raw o.run.oomKilled
          measuredResult case.1 measurement (judging.classified rt limits measurement o)
            (readStderrTail rt o.run.stderr)

end Judging

def isAccepted (entry : TestCaseResult) : Bool :=
  entry.verdict = .accepted

variable (rt : Runtime) (compile : CompileOutcome) (build : Except PyStr BuiltValidator)
variable (config : ProblemConfig) (limits : TimeLimits) (options : JudgeOptions)

/-- The session of a loop that starts with `judging`. -/
def Judging.session (judging : Judging) : Session where
  config := config
  runArgv := compile.runArgv
  validator := judging.validator
  compareFlags := judging.compareFlags
  limits := limits
  options := options

/-- The loop body on an outcome, once the testcase is judged at all. -/
def Judging.step (judging : Judging) :
    Progress TestCaseResult → TestCase × CaseOutcome → Progress TestCaseResult :=
  scanStep (judging.entry rt limits options.memoryMib)
    (fun case => notRunResult case.1) isAccepted options.judgeAll

theorem judgeInteractiveCase_outcome (validator : BuiltValidator)
    (results : List TestCaseResult) (case : TestCase × CaseOutcome) :
    judgeInteractiveCase (outcomeCalls rt compile build)
        ((Judging.interactive validator).session compile config limits options)
        ⟨results, false⟩ case =
      .ok ((Judging.interactive validator).step rt limits options ⟨results, false⟩ case) := by
  cases hjson : case.2.interactive.runJson with
  | none =>
      simp [judgeInteractiveCase, outcomeCalls, Judging.session, Judging.validator,
        InteractiveOutcome.report, hjson, Judging.step, Judging.entry, scanStep,
        isAccepted, missingResult, bind, Except.bind, pure, Except.pure]
  | some raw =>
      simp [judgeInteractiveCase, outcomeCalls, Judging.session, Judging.validator,
        InteractiveOutcome.report, hjson, Judging.step, Judging.entry, scanStep,
        isAccepted, bind, Except.bind, pure, Except.pure]

/-- Outside interactive mode the measured run is classified by the mode's own
rule. -/
theorem classifyMeasured_outcome (judging : Judging)
    (hmode : judging.mode ≠ .customInteractive) (case : TestCase × CaseOutcome)
    (raw : RunRecord) (hjson : case.2.run.runJson = some raw) :
    classifyMeasured rt (outcomeCalls rt compile build)
        (judging.session compile config limits options) case
        (measurementOf raw case.2.run.oomKilled) (case.2.run.report rt) =
      .ok (judging.classified rt limits (measurementOf raw case.2.run.oomKilled)
        case.2) := by
  cases judging with
  | default flags =>
      simp [classifyMeasured, outcomeCalls, Judging.session, Judging.validator,
        Judging.compareFlags, Judging.classified, RunOutcome.report, hjson, bind,
        Except.bind, pure, Except.pure]
  | custom validator =>
      by_cases haccepted : (classifyRun (measurementOf raw case.2.run.oomKilled) limits
          true []).1 = .accepted <;>
        simp [classifyMeasured, outcomeCalls, Judging.session, Judging.validator,
          Judging.classified, haccepted, pure, Except.pure]
  | interactive validator => exact absurd rfl hmode

theorem judgeMeasuredCase_outcome (judging : Judging)
    (hmode : judging.mode ≠ .customInteractive) (results : List TestCaseResult)
    (case : TestCase × CaseOutcome) :
    judgeMeasuredCase rt (outcomeCalls rt compile build)
        (judging.session compile config limits options) ⟨results, false⟩ case =
      .ok (judging.step rt limits options ⟨results, false⟩ case) := by
  have hentry : judging.entry rt limits options.memoryMib case =
      match case.2.run.runJson with
      | none => missingResult case.1 (describeMissingRunResult rt case.2.run.dockerStderr)
      | some raw => measuredResult case.1 (measurementOf raw case.2.run.oomKilled)
          (judging.classified rt limits (measurementOf raw case.2.run.oomKilled) case.2)
          (readStderrTail rt case.2.run.stderr) := by
    cases judging with
    | interactive validator => exact absurd rfl hmode
    | _ => rfl
  cases hjson : case.2.run.runJson with
  | none =>
      simp [judgeMeasuredCase, outcomeCalls, RunOutcome.report, hjson, Judging.step,
        Judging.session, hentry, scanStep, isAccepted, missingResult, bind, Except.bind,
        pure, Except.pure]
  | some raw =>
      have hclassified := classifyMeasured_outcome rt compile build config limits options
        judging hmode case raw hjson
      simp only [judgeMeasuredCase, bind, Except.bind]
      rw [show (outcomeCalls rt compile build).runOneTestcase case _ _ _ =
        .ok (case.2.run.report rt) from rfl]
      simp only [show (case.2.run.report rt).measurement =
        some (measurementOf raw case.2.run.oomKilled) by simp [RunOutcome.report, hjson],
        hclassified]
      simp [Judging.step, hentry, hjson, scanStep, isAccepted, measuredResult,
        RunOutcome.report, Judging.session, outcomeCalls, pure, Except.pure]

/-- One round of the loop over outcomes is one round of the lazy scan. -/
theorem judgeStep_outcome (judging : Judging)
    (hmode : config.validation = judging.mode) (progress : Progress TestCaseResult)
    (case : TestCase × CaseOutcome) :
    judgeStep rt (outcomeCalls rt compile build)
        (judging.session compile config limits options) progress case =
      .ok (judging.step rt limits options progress case) := by
  obtain ⟨results, stopped⟩ := progress
  cases stopped with
  | true => simp [judgeStep, Judging.step, scanStep, outcomeCalls, pure, Except.pure]
  | false =>
      rw [judgeStep, if_neg Bool.false_ne_true]
      by_cases hinteractive : config.validation = .customInteractive
      · rw [if_pos (by exact hinteractive)]
        cases judging with
        | interactive validator =>
            exact judgeInteractiveCase_outcome rt compile build config limits options
              validator results case
        | _ => exact absurd (hmode.symm.trans hinteractive) (by simp [Judging.mode])
      · rw [if_neg (by exact hinteractive)]
        exact judgeMeasuredCase_outcome rt compile build config limits options judging
          (hmode ▸ hinteractive) results case

/-- The whole loop over outcomes is the lazy scan. -/
theorem foldlM_judgeStep_outcome (judging : Judging)
    (hmode : config.validation = judging.mode)
    (cases : List (TestCase × CaseOutcome)) (progress : Progress TestCaseResult) :
    cases.foldlM (judgeStep rt (outcomeCalls rt compile build)
        (judging.session compile config limits options)) progress =
      .ok (cases.foldl (judging.step rt limits options) progress) := by
  induction cases generalizing progress with
  | nil => rfl
  | cons case cases ih =>
      rw [List.foldlM_cons, judgeStep_outcome rt compile build config limits options judging
        hmode]
      exact ih _

/-! ## The whole function -/

/-- What precedes the loop once compilation has succeeded: an exception, a
validator that cannot be built, or everything the loop needs. -/
def prepare : PyM (Except PyStr Judging) :=
  match config.validation with
  | .default => (parseCompareFlags rt config.validatorFlags).map fun flags =>
      .ok (.default flags)
  | .custom =>
      if config.validatorDir.isSome then .ok (build.map .custom)
      else .error assertionError
  | .customInteractive =>
      if config.validatorDir.isSome then .ok (build.map .interactive)
      else .error assertionError

/-- The five ways in which the preparation can end. -/
theorem prepare_cases :
    (∃ exc, prepare rt build config = .error exc ∧
        ((config.validation = .default ∧
            parseCompareFlags rt config.validatorFlags = .error exc) ∨
          (config.validation ≠ .default ∧ config.validatorDir = none))) ∨
      (∃ exc, prepare rt build config = .ok (.error exc) ∧
        config.validation ≠ .default ∧ build = .error exc) ∨
      (∃ flags, prepare rt build config = .ok (.ok (.default flags)) ∧
        config.validation = .default ∧
          parseCompareFlags rt config.validatorFlags = .ok flags) ∨
      (∃ validator, prepare rt build config = .ok (.ok (.custom validator)) ∧
        config.validation = .custom ∧ config.validatorDir.isSome = true ∧
          build = .ok validator) ∨
      ∃ validator, prepare rt build config = .ok (.ok (.interactive validator)) ∧
        config.validation = .customInteractive ∧ config.validatorDir.isSome = true ∧
          build = .ok validator := by
  cases hmode : config.validation with
  | default =>
      cases hflags : parseCompareFlags rt config.validatorFlags <;>
        simp [prepare, hmode, hflags, Except.map]
  | custom | customInteractive =>
      cases hdir : config.validatorDir <;> cases build <;>
        simp [prepare, hmode, hdir, Except.map]

/-- `prepare` is what the two preparing steps of `judge_solution` come to. -/
theorem prepare_spec :
    match prepare rt build config with
    | .ok (.ok judging) =>
        config.validation = judging.mode ∧
          prepareValidator (outcomeCalls rt compile build) config options =
              .ok (.ok judging.validator) ∧
            prepareCompareFlags (m := PyM) rt config = .ok judging.compareFlags
    | .ok (.error exc) =>
        prepareValidator (outcomeCalls rt compile build) config options = .ok (.error exc)
    | .error exc =>
        prepareValidator (outcomeCalls rt compile build) config options = .error exc ∨
          (prepareValidator (outcomeCalls rt compile build) config options =
              .ok (.ok none) ∧
            prepareCompareFlags (m := PyM) rt config = .error exc) := by
  cases hmode : config.validation with
  | default =>
      cases hflags : parseCompareFlags rt config.validatorFlags with
      | error exc =>
          simp [prepare, prepareValidator, prepareCompareFlags, hmode, hflags, Except.map,
            pure, Except.pure, throw, throwThe, MonadExceptOf.throw]
      | ok flags =>
          simp [prepare, prepareValidator, prepareCompareFlags, hmode, hflags, Except.map,
            Judging.mode, Judging.validator, Judging.compareFlags, pure, Except.pure]
  | custom | customInteractive =>
      cases hdir : config.validatorDir with
      | none =>
          simp [prepare, prepareValidator, hmode, hdir, throw, throwThe,
            MonadExceptOf.throw]
      | some dir =>
          cases build with
          | error exc =>
              simp [prepare, prepareValidator, outcomeCalls, hmode, hdir, Except.map, bind,
                Except.bind, pure, Except.pure]
          | ok validator =>
              simp [prepare, prepareValidator, prepareCompareFlags, outcomeCalls, hmode, hdir,
                Except.map, Judging.mode, Judging.validator, Judging.compareFlags, bind,
                Except.bind, pure, Except.pure]

/-- Entries recorded by the loop. -/
def Judging.results (judging : Judging) (cases : List (TestCase × CaseOutcome)) :
    List TestCaseResult :=
  (cases.foldl (judging.step rt limits options) ⟨[], false⟩).results

variable (solution : Solution) (cases : List (TestCase × CaseOutcome))

def compileFailedResult : SolutionResult :=
  { initialResult solution options with
    compileLog := compile.log
    verdict := .compilerError
    testcases := cases.map fun case => notRunResult case.1 }

def validatorFailedResult (exc : PyStr) : SolutionResult :=
  { initialResult solution options with
    compileLog := strip (compile.log ++ py "\n[validator] " ++ exc)
    verdict := .judgeError
    testcases := cases.map fun case => notRunResult case.1 }

def judgedResult (judging : Judging) : SolutionResult :=
  { initialResult solution options with
    compileLog := compile.log
    testcases := judging.results rt limits options cases
    verdict := solutionVerdict (judging.results rt limits options cases) }

/-- `judge_solution` over outcomes, one case for each of its return paths. -/
theorem judgeSolution_outcome :
    judgeSolution rt (outcomeCalls rt compile build) config solution cases limits options =
      if compile.ok then
        match prepare rt build config with
        | .error exc => .error exc
        | .ok (.error exc) =>
            .ok (validatorFailedResult compile options solution cases exc)
        | .ok (.ok judging) =>
            .ok (judgedResult rt compile limits options solution cases judging)
      else .ok (compileFailedResult compile options solution cases) := by
  cases hok : compile.ok with
  | false =>
      simp [judgeSolution, outcomeCalls, hok, compileFailedResult, bind, Except.bind, pure,
        Except.pure]
  | true =>
      have hspec := prepare_spec rt compile build config options
      have hcompile : ∀ options', (outcomeCalls rt compile build).compileSolution solution
          config.memoryMib options' = .ok compile := fun _ => rfl
      cases hprepare : prepare rt build config with
      | error exc =>
          rw [hprepare] at hspec
          rcases hspec with hvalidator | ⟨hvalidator, hflags⟩
          · simp [judgeSolution, hcompile, hok, hvalidator, bind, Except.bind]
          · simp [judgeSolution, hcompile, hok, hvalidator, hflags, bind, Except.bind]
      | ok prepared =>
          cases prepared with
          | error exc =>
              rw [hprepare] at hspec
              have htestcase : ∀ case, (outcomeCalls rt compile build).testcase case = case.1 :=
                fun _ => rfl
              simp [judgeSolution, hcompile, hok, hspec, validatorFailedResult, htestcase,
                bind, Except.bind, pure, Except.pure]
          | ok judging =>
              rw [hprepare] at hspec
              obtain ⟨hmode, hvalidator, hflags⟩ := hspec
              have hloop := foldlM_judgeStep_outcome rt compile build config limits options
                judging hmode cases ⟨[], false⟩
              rw [Judging.session] at hloop
              simp [judgeSolution, hcompile, hok, hvalidator, hflags, hloop, judgedResult,
                Judging.results, bind, Except.bind, pure, Except.pure]

end IcpcVerify.Judge
