import IcpcVerify.Compare
import IcpcVerify.Core.LazyScan
import IcpcVerify.Judge.Interactive
import IcpcVerify.Validators

/-!
# Judging one solution

`judge_solution` compiles the solution, builds the validator when the mode needs
one, and then runs the testcases one by one.  The calls it makes into containers
and directories are collected in `Calls`, over an arbitrary monad: the same
program text is read once over the outcomes of those calls and once over files.
-/

namespace IcpcVerify.Judge

open IcpcVerify.Python
open IcpcVerify.Timelimits
open IcpcVerify.Results
open IcpcVerify.Runner
open IcpcVerify.Sandbox
open IcpcVerify.Compare
open IcpcVerify.LazyScan

structure JudgeOptions where
  image : PyStr
  cpuset : ℤ
  judgeAll : Bool
  outputLimitMib : ℤ
  memoryMib : ℤ
  compileFlags : List (Language × PyStr)
  machineFactor : ℚ
  cpuIsolated : Bool
  warnings : List PyStr

def stderrKeepBytes : ℕ := 8 * 1024

/-- A file directly below one of the reused directories. -/
structure IoFile where
  dir : IoDir
  name : PyStr
  deriving DecidableEq

/-- What `_run_one_testcase` returns. -/
structure RunReport where
  measurement : Option RunMeasurement
  teamOutput : Bytes
  teamOutputPath : IoFile
  stderrText : PyStr

/-- What `_run_interactive_testcase` returns. -/
structure InteractiveReport where
  raw : Option InteractiveRecord
  feedbackDir : IoDir
  missingMessage : PyStr
  solStderrText : PyStr
  valStderrText : PyStr

/-- The effects of `judge_solution`, for testcases handled as `Case`. -/
structure Calls (m : Type → Type) (Case : Type) where
  testcase : Case → TestCase
  compileSolution : Solution → ℤ → CompileOptions → m CompileOutcome
  /-- The inner `error` is a caught `ValidatorError`. -/
  buildValidator : Path → PyStr → ℤ → m (Except PyStr BuiltValidator)
  runOneTestcase : Case → List PyStr → TimeLimits → JudgeOptions → m RunReport
  runInteractiveTestcase :
    Case → List PyStr → BuiltValidator → ProblemConfig → TimeLimits → JudgeOptions →
      m InteractiveReport
  readJudgemessage : Case → IoDir → m PyStr
  runCustomValidator :
    Case → BuiltValidator → IoFile → IoDir → List PyStr → PyStr → ℤ → ℚ →
      m (Verdict × PyStr)
  readAnswer : Case → m Bytes

/-- The locals of `judge_solution` that its loop reads. -/
structure Session where
  config : ProblemConfig
  runArgv : List PyStr
  validator : Option BuiltValidator
  compareFlags : Option CompareFlags
  limits : TimeLimits
  options : JudgeOptions

/-! ## Result entries -/

def notRunResult (case : TestCase) : TestCaseResult :=
  ⟨case.id, case.group, .notRun, 0, 0, 0, 0, []⟩

/-- Entry for a testcase whose `run.json` is missing. -/
def missingResult (case : TestCase) (message : PyStr) : TestCaseResult :=
  ⟨case.id, case.group, .judgeError, 0, 0, 0, 0, message⟩

def interactiveMessage (verdict : Verdict) (message judgemessage solStderrText
    valStderrText : PyStr) : PyStr :=
  let message :=
    if judgemessage = [] then message
    else if message = [] then judgemessage
    else strip (message ++ py "\n" ++ judgemessage)
  let message :=
    if verdict = .runTimeError ∧ solStderrText ≠ [] then
      message ++ py "\nstderr: " ++ solStderrText
    else message
  if verdict = .judgeError ∧ valStderrText ≠ [] then
    message ++ py "\nvalidator stderr: " ++ valStderrText
  else message

def interactiveResult (case : TestCase) (raw : InteractiveRecord) (limits : TimeLimits)
    (memoryMib : ℤ) (judgemessage solStderrText valStderrText : PyStr) :
    TestCaseResult :=
  let classified := classifyInteractive raw limits memoryMib
  let sol := raw.solution
  { id := case.id
    group := case.group
    verdict := classified.1
    wall := sol.wall
    cpu := sol.cpu
    memKib := sol.maxRssKib
    exitCode := sol.exitCode
    message := interactiveMessage classified.1 classified.2 judgemessage solStderrText
      valStderrText }

def measuredResult (case : TestCase) (measurement : RunMeasurement)
    (classified : Verdict × PyStr) (stderrText : PyStr) : TestCaseResult :=
  { id := case.id
    group := case.group
    verdict := classified.1
    wall := measurement.wall
    cpu := measurement.cpu
    memKib := measurement.maxRssKib
    exitCode := measurement.exitCode
    message :=
      if stderrText ≠ [] ∧ classified.1 = .runTimeError then
        classified.2 ++ py "\nstderr: " ++ stderrText
      else classified.2 }

/-! ## The loop -/

def assertionError : PyError :=
  ⟨.assertion, []⟩

section Program

variable {m : Type → Type} [Monad m] [MonadExceptOf PyError m] {Case : Type}
variable (rt : Runtime) (calls : Calls m Case) (session : Session)

/-- Body of the loop for a custom interactive problem. -/
def judgeInteractiveCase (progress : Progress TestCaseResult) (case : Case) :
    m (Progress TestCaseResult) := do
  match session.validator with
  | none => throw assertionError
  | some validator =>
      let report ← calls.runInteractiveTestcase case session.runArgv validator
        session.config session.limits session.options
      match report.raw with
      | none =>
          return {
            results := progress.results ++
              [missingResult (calls.testcase case) report.missingMessage]
            stopped := if !session.options.judgeAll then true else progress.stopped }
      | some raw =>
          let judgemessage ← calls.readJudgemessage case report.feedbackDir
          let entry := interactiveResult (calls.testcase case) raw session.limits
            session.options.memoryMib judgemessage report.solStderrText
            report.valStderrText
          return {
            results := progress.results ++ [entry]
            stopped :=
              if entry.verdict ≠ .accepted ∧ !session.options.judgeAll then true
              else progress.stopped }

/-- Verdict and message of a measured run: the validator is only asked about a
run that is healthy by itself. -/
def classifyMeasured (case : Case) (measurement : RunMeasurement)
    (report : RunReport) : m (Verdict × PyStr) := do
  match session.validator with
  | some validator =>
      let classified := classifyRun measurement session.limits true []
      if classified.1 = .accepted then
        calls.runCustomValidator case validator report.teamOutputPath .feedback
          session.config.validatorFlags session.options.image session.options.cpuset
          (session.limits.hardKill + 30)
      else return classified
  | none =>
      let answer ← calls.readAnswer case
      match session.compareFlags with
      | none => throw ⟨.attribute, []⟩
      | some flags =>
          let compared := compareOutput rt report.teamOutput answer flags
          return classifyRun measurement session.limits compared.1 compared.2

/-- Body of the loop for a default or custom problem. -/
def judgeMeasuredCase (progress : Progress TestCaseResult) (case : Case) :
    m (Progress TestCaseResult) := do
  let report ← calls.runOneTestcase case session.runArgv session.limits session.options
  match report.measurement with
  | none =>
      return {
        results := progress.results ++
          [missingResult (calls.testcase case) report.stderrText]
        stopped := if !session.options.judgeAll then true else progress.stopped }
  | some measurement =>
      let classified ← classifyMeasured rt calls session case measurement report
      return {
        results := progress.results ++
          [measuredResult (calls.testcase case) measurement classified report.stderrText]
        stopped :=
          if classified.1 ≠ .accepted ∧ !session.options.judgeAll then true
          else progress.stopped }

/-- Body of the loop. -/
def judgeStep (progress : Progress TestCaseResult) (case : Case) :
    m (Progress TestCaseResult) :=
  if progress.stopped then
    return {
      results := progress.results ++ [notRunResult (calls.testcase case)]
      stopped := progress.stopped }
  else if session.config.validation = .customInteractive then
    judgeInteractiveCase calls session progress case
  else judgeMeasuredCase rt calls session progress case

/-- `build_validator` where the mode needs a validator, with its assertion. -/
def prepareValidator (config : ProblemConfig) (options : JudgeOptions) :
    m (Except PyStr (Option BuiltValidator)) :=
  if config.validation = .custom ∨ config.validation = .customInteractive then
    match config.validatorDir with
    | none => throw assertionError
    | some dir => do
        let built ← calls.buildValidator dir options.image options.cpuset
        return built.map some
  else return .ok none

/-- `parse_compare_flags` where the mode needs the flags. -/
def prepareCompareFlags (config : ProblemConfig) : m (Option CompareFlags) :=
  if config.validation = .default then
    match parseCompareFlags rt config.validatorFlags with
    | .ok flags => return some flags
    | .error exc => throw exc
  else return none

/-- The `SolutionResult` that `judge_solution` starts from. -/
def initialResult (solution : Solution) (options : JudgeOptions) : SolutionResult where
  name := solution.name
  relPath := solution.relPath
  expected := solution.expected
  language := (solution.language.map Language.value).getD []
  verdict := .judgeError
  testcases := []
  compileLog := []
  machineFactor := options.machineFactor
  cpuIsolated := options.cpuIsolated
  warnings := options.warnings

/-- `judge_solution`. -/
def judgeSolution (config : ProblemConfig) (solution : Solution)
    (testcases : List Case) (limits : TimeLimits) (options : JudgeOptions) :
    m SolutionResult := do
  let result := initialResult solution options
  let notRun := testcases.map fun case => notRunResult (calls.testcase case)
  let outcome ← calls.compileSolution solution config.memoryMib
    ⟨options.image, options.cpuset, options.compileFlags⟩
  if !outcome.ok then
    return { result with
      compileLog := outcome.log, verdict := .compilerError, testcases := notRun }
  else
    match ← prepareValidator calls config options with
    | .error exc =>
        return { result with
          compileLog := strip (outcome.log ++ py "\n[validator] " ++ exc)
          verdict := .judgeError
          testcases := notRun }
    | .ok validator =>
        let compareFlags ← prepareCompareFlags rt config
        let session : Session :=
          ⟨config, outcome.runArgv, validator, compareFlags, limits, options⟩
        let progress ← testcases.foldlM (judgeStep rt calls session) ⟨[], false⟩
        return { result with
          compileLog := outcome.log
          testcases := progress.results
          verdict := solutionVerdict progress.results }

end Program

end IcpcVerify.Judge
