import IcpcVerify.Cpu
import IcpcVerify.Judge.Outcomes
import IcpcVerify.Solutions

/-!
# The judge command

`run_judge` prepares and judges one solution, writes the result file and turns the
expectation into an exit code.  `main` maps every exception to an exit code of its
own.
-/

namespace IcpcVerify.Cli

open IcpcVerify.Python
open IcpcVerify.Timelimits
open IcpcVerify.Results
open IcpcVerify.Solutions
open IcpcVerify.Cpu
open IcpcVerify.Judge
open IcpcVerify.FallibleRun

def exitOk : ℤ := 0
def exitMismatch : ℤ := 1
def exitConfig : ℤ := 2

/-- The parsed command line. -/
structure JudgeArgs where
  problemDir : Path
  solution : PyStr
  image : PyStr
  judgeCpu : Option ℤ
  noOfflineSibling : Bool
  judgeAll : Bool
  defaultTimeLimit : PyFloat
  defaultMemoryMib : ℤ
  timelimitOvershoot : PyStr
  outputLimitMib : ℤ
  requiredCpuFlags : PyStr
  verdictMatch : VerdictMatch
  compileFlagsCpp : PyStr
  compileFlagsC : PyStr
  compileFlagsJava : PyStr

/-- What is written to the result file. -/
structure Payload where
  result : SolutionResult
  expectationMet : Bool
  timeLimit : ℚ
  hardKill : ℚ
  deriving DecidableEq

/-- What the command meets outside: the problem directory, the machine, and the calls
of `judge_solution`. -/
structure Environment (Case : Type) where
  loadProblemConfig : PyFloat → ℤ → PyM ProblemConfig
  collectTestcases : PyM (List Case)
  solutions : Option (List VerdictEntry)
  machine : PyStr
  readCpuFlags : PyM (List PyStr)
  readTopology : PyM Topology
  takeOffline : ℤ → PyM (Option PyStr)
  defaultImage : PyM PyStr
  measureMachineFactor : PyStr → ℤ → PyM ℚ
  makeWorkDir : PyM Unit
  judge : Calls PyM Case
  removeWorkDir : PyM Unit
  writeOutput : Payload → PyM Unit
  print : List PyStr → SolutionResult → PyM Unit

/-- Code that may raise; the state is the result file it has written completely. -/
abbrev CliM := ExceptT PyError (StateM (Option Payload))

/-- Locals of `run_judge` when `judge_solution` has returned. -/
structure Judged where
  limits : TimeLimits
  allWarnings : List PyStr
  result : SolutionResult

/-- Items of `--required-cpu-flags`. -/
def requiredFlags (requiredCpuFlags : PyStr) : List PyStr :=
  (splitOn (ord ',') requiredCpuFlags).filter fun flag => strip flag ≠ []

section Command

variable (rt : Runtime) {Case : Type} (args : JudgeArgs) (env : Environment Case)

/-- The discovered solution that `--solution` names, with the warnings so far. -/
def selectSolution : PyM (Solution × List PyStr) := do
  let discovered ← discoverSolutions rt args.problemDir env.solutions []
  match discovered.1.find? fun solution => solution.relPath = args.solution with
  | none => throw ⟨.problemConfig, py "solution 을 찾지 못했습니다: " ++ args.solution⟩
  | some solution => return (solution, discovered.2)

def judgeOptions (config : ProblemConfig) (plan : CpuPlan) (image : PyStr)
    (machineFactor : ℚ) (allWarnings : List PyStr) : JudgeOptions where
  image := image
  cpuset := plan.judgeCpu
  judgeAll := args.judgeAll
  outputLimitMib := args.outputLimitMib
  memoryMib := config.memoryMib
  compileFlags := [(.cpp, args.compileFlagsCpp), (.c, args.compileFlagsC),
    (.java, args.compileFlagsJava)]
  machineFactor := machineFactor
  cpuIsolated := plan.isolated
  warnings := allWarnings

/-- `args.image or _default_image()`. -/
def chooseImage : PyM PyStr :=
  if args.image ≠ [] then return args.image else env.defaultImage

/-- `run_judge` up to the return of `judge_solution`. -/
def judgeSelected : PyM Judged := do
  let config ← env.loadProblemConfig args.defaultTimeLimit args.defaultMemoryMib
  let limits ← makeTimeLimits rt config.timeLimit args.timelimitOvershoot
  let testcases ← env.collectTestcases
  let (solution, warnings) ← selectSolution rt args env
  let cpuFlags ← env.readCpuFlags
  checkArchAndFlags env.machine cpuFlags (requiredFlags args.requiredCpuFlags)
  let topology ← env.readTopology
  let plan ← planCpu topology args.judgeCpu !args.noOfflineSibling
  let failures ← applyCpuPlan env.takeOffline plan
  let allWarnings := warnings ++ plan.warnings ++ failures
  let image ← chooseImage args env
  let machineFactor ← env.measureMachineFactor image plan.judgeCpu
  env.makeWorkDir
  let result ← judgeSolution rt env.judge config solution testcases limits
    (judgeOptions args config plan image machineFactor allWarnings)
  return { limits, allWarnings, result }

/-- The result file of a judged solution. -/
def payloadOf (judged : Judged) : PyM Payload := do
  let expectationMet ← matchesExpectation rt judged.result.expected
    judged.result.verdict.name args.verdictMatch.name
  return {
    result := judged.result
    expectationMet
    timeLimit := judged.limits.limit
    hardKill := judged.limits.hardKill }

/-- `run_judge`.  A `write_text` that raises may leave a new file empty or cut short; only a
result file that was written completely counts as one. -/
def runJudge : CliM ℤ := do
  let judged ← judgeSelected rt args env
  env.removeWorkDir
  let payload ← payloadOf rt args judged
  env.writeOutput payload
  set (some payload)
  env.print judged.allWarnings judged.result
  return if payload.expectationMet then exitOk else exitMismatch

/-- `main` on the judge command: the exit code, and the result file if it was written
completely. -/
def main : ℤ × Option Payload :=
  match (runJudge rt args env).run none with
  | (.ok exitCode, written) => (exitCode, written)
  | (.error _, written) => (exitConfig, written)

end Command

/-! ## From the result to the exit code -/

variable {rt : Runtime} {Case : Type} {args : JudgeArgs} {env : Environment Case}

/-- Every path that returns fills in three fields and keeps the others. -/
theorem judgeSolution_frame {calls : Calls PyM Case} {config : ProblemConfig}
    {solution : Solution} {testcases : List Case} {limits : TimeLimits}
    {options : JudgeOptions} {result : SolutionResult}
    (hjudged : judgeSolution rt calls config solution testcases limits options =
      .ok result) :
    ∃ verdict entries compileLog, result =
      { initialResult solution options with
        verdict := verdict, testcases := entries, compileLog := compileLog } := by
  obtain ⟨outcome, -, hcompiled⟩ := bind_eq_ok_iff.1 hjudged
  split_ifs at hcompiled
  · exact ⟨_, _, _, (Except.ok.inj hcompiled).symm⟩
  · obtain ⟨prepared, -, hprepared⟩ := bind_eq_ok_iff.1 hcompiled
    cases prepared with
    | error exc => exact ⟨_, _, _, (Except.ok.inj hprepared).symm⟩
    | ok validator =>
        obtain ⟨compareFlags, -, hflags⟩ := bind_eq_ok_iff.1 hprepared
        obtain ⟨progress, -, hlooped⟩ := bind_eq_ok_iff.1 hflags
        exact ⟨_, _, _, (Except.ok.inj hlooped).symm⟩

/-- The result keeps the verdict that the solution was discovered under. -/
theorem judgeSolution_expected {calls : Calls PyM Case} {config : ProblemConfig}
    {solution : Solution} {testcases : List Case} {limits : TimeLimits}
    {options : JudgeOptions} {result : SolutionResult}
    (hjudged : judgeSolution rt calls config solution testcases limits options =
      .ok result) : result.expected = solution.expected := by
  obtain ⟨verdict, entries, compileLog, rfl⟩ := judgeSolution_frame hjudged
  rfl

theorem selectSolution_expected {solution : Solution} {warnings : List PyStr}
    (hselected : selectSolution rt args env = .ok (solution, warnings)) :
    solution.expected ∈ expectedVerdicts := by
  obtain ⟨discovered, hdiscovered, hfound⟩ := bind_eq_ok_iff.1 hselected
  split at hfound
  · cases hfound
  · next found hfind =>
    obtain rfl : found = solution := congrArg Prod.fst (Except.ok.inj hfound)
    exact discoverSolutions_expected hdiscovered found (List.mem_of_find?_eq_some hfind)

/-- The judged result is expected what the selected solution is. -/
theorem judgeSelected_expected {solution : Solution} {warnings : List PyStr}
    {judged : Judged} (hselected : selectSolution rt args env = .ok (solution, warnings))
    (hjudged : judgeSelected rt args env = .ok judged) :
    judged.result.expected = solution.expected := by
  simp only [judgeSelected, bind_eq_ok_iff, hselected] at hjudged
  obtain ⟨config, -, limits, -, testcases, -, selected, hselected', cpuFlags, -, -, -, topology,
    -, plan, -, failures, -, image, -, machineFactor, -, -, -, result, hresult, hjudged⟩ := hjudged
  rw [← Except.ok.inj hjudged, judgeSolution_expected hresult, ← Except.ok.inj hselected']

/-- Two of the four combinations of mode and directory take a judge error for an
expected rejection. -/
theorem matchesExpectation_judgeError {expected : PyStr}
    (hexpected : expected ∈ expectedVerdicts) (mode : VerdictMatch) :
    matchesExpectation rt expected Verdict.judgeError.name mode.name =
      .ok (decide (mode = .anyRejected ∧ expected ≠ Verdict.accepted.name)) := by
  have hne : expected ≠ Verdict.judgeError.name := fun heq =>
    judgeError_name_not_expected (heq ▸ hexpected)
  cases mode with
  | exact => simp [matchesExpectation, VerdictMatch.name, hne]
  | anyRejected =>
      have hmode : py "any-rejected" ≠ py "exact" := by decide
      have hrejected : Verdict.judgeError.name ≠ Verdict.accepted.name :=
        Verdict.name_injective.ne (by decide)
      by_cases haccepted : expected = Verdict.accepted.name <;>
        simp [matchesExpectation, VerdictMatch.name, hmode, hrejected, haccepted]

/-- The flag of a result file is always defined: the parser admits no third mode. -/
theorem payloadOf_judgeError {judged : Judged}
    (hexpected : judged.result.expected ∈ expectedVerdicts)
    (hverdict : judged.result.verdict = .judgeError) :
    payloadOf rt args judged = .ok ⟨judged.result,
      args.verdictMatch = .anyRejected ∧ judged.result.expected ≠ Verdict.accepted.name,
      judged.limits.limit, judged.limits.hardKill⟩ := by
  rw [payloadOf, hverdict, matchesExpectation_judgeError hexpected]
  rfl

/-- The result file could be written. -/
def Recorded (env : Environment Case) (payload : Payload) : Prop :=
  env.removeWorkDir = .ok () ∧ env.writeOutput payload = .ok ()

/-- Without a result file the exit code is that of an infrastructure failure. -/
theorem main_of_not_recorded {judged : Judged} {payload : Payload}
    (hjudged : judgeSelected rt args env = .ok judged)
    (hpayload : payloadOf rt args judged = .ok payload) (hfailed : ¬Recorded env payload) :
    main rt args env = (exitConfig, none) := by
  cases hremove : env.removeWorkDir with
  | error exc =>
      simp only [main, runJudge, hjudged, hremove, lift_ok_bind, lift_error_bind]
      rfl
  | ok removed =>
      cases hwrite : env.writeOutput payload with
      | error exc =>
          simp only [main, runJudge, hjudged, hremove, hpayload, hwrite, lift_ok_bind,
            lift_error_bind]
          rfl
      | ok written => exact absurd ⟨hremove, hwrite⟩ hfailed

/-- With one, the exit code is that of its flag unless the final output raised. -/
theorem main_of_recorded {judged : Judged} {payload : Payload}
    (hjudged : judgeSelected rt args env = .ok judged)
    (hpayload : payloadOf rt args judged = .ok payload) (hrecorded : Recorded env payload) :
    (main rt args env).2 = some payload ∧
      ((main rt args env).1 = exitConfig ∨
        (main rt args env).1 = if payload.expectationMet then exitOk else exitMismatch) := by
  obtain ⟨hremove, hwrite⟩ := hrecorded
  simp only [main, runJudge, hjudged, hremove, hpayload, hwrite, lift_ok_bind]
  cases env.print judged.allWarnings judged.result with
  | error exc => exact ⟨rfl, .inl rfl⟩
  | ok printed => exact ⟨rfl, .inr rfl⟩

/-- Neither the exit code nor the result file takes the run for a success. -/
def NotGreen (ending : ℤ × Option Payload) : Prop :=
  ending.1 ≠ exitOk ∧ ∀ payload ∈ ending.2, payload.expectationMet = false

instance (ending : ℤ × Option Payload) : Decidable (NotGreen ending) :=
  inferInstanceAs (Decidable (_ ∧ _))

/-- A run is not green when its flag is down or nothing was written. -/
theorem notGreen_main_iff {judged : Judged} {payload : Payload}
    (hjudged : judgeSelected rt args env = .ok judged)
    (hpayload : payloadOf rt args judged = .ok payload) :
    NotGreen (main rt args env) ↔
      payload.expectationMet = false ∨ ¬Recorded env payload := by
  by_cases hrecorded : Recorded env payload
  · obtain ⟨hwritten, hcode⟩ := main_of_recorded hjudged hpayload hrecorded
    simp only [hrecorded, not_true, or_false]
    constructor
    · intro hnotGreen
      exact hnotGreen.2 payload hwritten
    · intro hdown
      constructor
      · rcases hcode with hcode | hcode
        · rw [hcode]
          decide
        · rw [hcode, hdown]
          decide
      · intro found hfound
        rw [hwritten] at hfound
        rwa [← Option.some.inj hfound]
  · rw [main_of_not_recorded hjudged hpayload hrecorded]
    apply iff_of_true
    · constructor
      · decide
      · intro found hfound
        cases hfound
    · exact .inr hrecorded

/-- A judge error is kept from passing as a success by the mode `exact`, by the
directory `accepted/`, or by a result file that cannot be written. -/
theorem main_judgeError_notGreen_iff {solution : Solution} {warnings : List PyStr}
    {judged : Judged} (hselected : selectSolution rt args env = .ok (solution, warnings))
    (hjudged : judgeSelected rt args env = .ok judged)
    (hverdict : judged.result.verdict = .judgeError) :
    NotGreen (main rt args env) ↔
      args.verdictMatch = .exact ∨ solution.expected = Verdict.accepted.name ∨
        ¬Recorded env
          ⟨judged.result, true, judged.limits.limit, judged.limits.hardKill⟩ := by
  have hsame := judgeSelected_expected hselected hjudged
  have hexpected : judged.result.expected ∈ expectedVerdicts := by
    rw [hsame]
    exact selectSolution_expected hselected
  have hpayload : payloadOf rt args judged = .ok _ := payloadOf_judgeError hexpected hverdict
  rw [notGreen_main_iff hjudged hpayload, decide_eq_false_iff_not, hsame]
  cases hmode : args.verdictMatch with
  | exact => simp
  | anyRejected =>
      by_cases haccepted : solution.expected = Verdict.accepted.name
      · simp [haccepted]
      · simp [haccepted]

/-! ## A validator that crashes -/

/-- `judge` on a solution in `wrong_answer/`. -/
def crashArgs (verdictMatch : VerdictMatch) : JudgeArgs where
  problemDir := [py "problem"]
  solution := py "wrong_answer/greedy.py"
  image := py "judge"
  judgeCpu := none
  noOfflineSibling := false
  judgeAll := false
  defaultTimeLimit := .finite 1
  defaultMemoryMib := 2048
  timelimitOvershoot := py "2s"
  outputLimitMib := 8
  requiredCpuFlags := py "avx2"
  verdictMatch := verdictMatch
  compileFlagsCpp := []
  compileFlagsC := []
  compileFlagsJava := []

/-- The solution ends well within its limits, and the validator exits with 1. -/
def crashOutcome : CaseOutcome where
  run := ⟨some ⟨0, 0, 0, 0, 0, false, false⟩, false, some [], some [], []⟩
  validator := ⟨⟨1, false, [], [], false⟩, none⟩
  interactive := ⟨none, false, none, none, none, []⟩
  answer := []

/-- One testcase of a custom problem on a machine with two cores. -/
def crashEnvironment : Environment (TestCase × CaseOutcome) where
  loadProblemConfig _ memoryMib := .ok ⟨py "problem", 1, memoryMib, 1, .custom, [],
    some [py "problem", py "output_validators"], py "legacy"⟩
  collectTestcases := .ok [(⟨py "sample/1", py "sample", [py "1.in"], [py "1.ans"]⟩,
    crashOutcome)]
  solutions := some [⟨py "wrong_answer", some [⟨py "greedy.py", none, .ok []⟩]⟩]
  machine := py "x86_64"
  readCpuFlags := .ok [py "avx2"]
  readTopology := .ok [(0, [0]), (1, [1])]
  takeOffline _ := .ok none
  defaultImage := .ok (py "judge")
  measureMachineFactor _ _ := .ok 1
  makeWorkDir := .ok ()
  judge := outcomeCalls Runtime.ascii ⟨true, [], []⟩ (.ok ⟨[], [], []⟩)
  removeWorkDir := .ok ()
  writeOutput _ := .ok ()
  print _ _ := .ok ()

theorem crash_judged (verdictMatch : VerdictMatch) :
    ∃ solution warnings judged,
      selectSolution Runtime.ascii (crashArgs verdictMatch) crashEnvironment =
          .ok (solution, warnings) ∧
        judgeSelected Runtime.ascii (crashArgs verdictMatch) crashEnvironment = .ok judged ∧
          judged.result.verdict = .judgeError := by
  have hverdict :
      ((judgeSelected Runtime.ascii (crashArgs verdictMatch) crashEnvironment).map
        fun judged => judged.result.verdict) = .ok .judgeError := by
    cases verdictMatch <;> decide +kernel
  have hselected :
      ((selectSolution Runtime.ascii (crashArgs verdictMatch) crashEnvironment).map
        fun selected => selected.2) = .ok [] := by
    cases verdictMatch <;> decide +kernel
  obtain ⟨judged, hjudged, hjudgeError⟩ := map_eq_ok_iff.1 hverdict
  obtain ⟨⟨solution, warnings⟩, hfound, -⟩ := map_eq_ok_iff.1 hselected
  exact ⟨solution, warnings, judged, hfound, hjudged, hjudgeError⟩

/-- In the mode `exact` the broken validator fails the job. -/
theorem crash_exact_notGreen :
    NotGreen (main Runtime.ascii (crashArgs .exact) crashEnvironment) := by
  obtain ⟨solution, warnings, judged, hselected, hjudged, hverdict⟩ := crash_judged .exact
  exact (main_judgeError_notGreen_iff hselected hjudged hverdict).2 (.inl rfl)

/-- In the mode `any-rejected` it is a success: exit code 0, and `expectation_met`. -/
theorem crash_anyRejected_green :
    (∃ judged,
      judgeSelected Runtime.ascii (crashArgs .anyRejected) crashEnvironment = .ok judged ∧
        judged.result.verdict = .judgeError) ∧
      (main Runtime.ascii (crashArgs .anyRejected) crashEnvironment).1 = exitOk ∧
        (main Runtime.ascii (crashArgs .anyRejected) crashEnvironment).2.map
            Payload.expectationMet = some true ∧
          ¬NotGreen (main Runtime.ascii (crashArgs .anyRejected) crashEnvironment) := by
  obtain ⟨_, _, judged, _, hjudged, hverdict⟩ := crash_judged .anyRejected
  exact ⟨⟨judged, hjudged, hverdict⟩, by decide +kernel, by decide +kernel,
    by decide +kernel⟩

end IcpcVerify.Cli
